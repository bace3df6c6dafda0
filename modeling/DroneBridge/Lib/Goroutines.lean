import DroneBridge.Lib.Machine

/-!
# Goroutines

A pool of goroutines over shared memory. A step of a run picks one of them and lets it go on, at a
time that is not before that of the last step, to the next point where the others can see what it
did. It changes the memory and leaves in its place what it has still to do, together with the
goroutines that it started. A goroutine that waits has no step.

`Moves` says what a step does to the pool: the other goroutines stay as they are.

`quiet_of_run` is the rule for a phase of the memory in which no goroutine may be at certain points.
It asks for one step: a step into the phase finds all of them at other points, and a step inside the
phase leaves only such points.
-/

structure Goroutines (σ τ ι : Type*) where
  /-- A step of a goroutine at a time, with what it is given from outside. -/
  exec : ℕ → σ → τ → ι → Option (σ × List τ)

structure GoPool (σ τ : Type*) where
  clock : ℕ
  memory : σ
  routines : List τ

structure GoEvent (ι : Type*) where
  now : ℕ
  routine : ℕ
  input : ι

namespace Goroutines

variable {σ τ ι : Type*} (G : Goroutines σ τ ι)

def step (p : GoPool σ τ) (e : GoEvent ι) : Option (GoPool σ τ) :=
  if p.clock ≤ e.now then
    (p.routines[e.routine]?).bind fun r ↦
      (G.exec e.now p.memory r e.input).map fun (memory, left) ↦
        ⟨e.now, memory, p.routines.take e.routine ++ (left ++ p.routines.drop (e.routine + 1))⟩
  else none

def machine : Machine (GoPool σ τ) (GoEvent ι) := ⟨G.step⟩

variable {G} {p p' : GoPool σ τ} {e : GoEvent ι}

variable (G) in
/-- A step takes one goroutine out of the pool and puts what it leaves in its place. -/
structure Moves (p : GoPool σ τ) (e : GoEvent ι) (p' : GoPool σ τ) (r : τ)
    (before left after : List τ) : Prop where
  routines : p.routines = before ++ r :: after
  routines' : p'.routines = before ++ (left ++ after)
  at_place : p.routines[e.routine]? = some r
  exec : G.exec e.now p.memory r e.input = some (p'.memory, left)
  clock_le : p.clock ≤ e.now
  clock' : p'.clock = e.now

theorem moves_of_step (h : G.machine.step p e = some p') :
    ∃ r before left after, G.Moves p e p' r before left after := by
  obtain ⟨hclock, h⟩ := Option.ite_none_right_eq_some.mp h
  obtain ⟨r, hr, h⟩ := Option.bind_eq_some_iff.mp h
  obtain ⟨⟨memory, left⟩, hexec, rfl⟩ := Option.map_eq_some_iff.mp h
  obtain ⟨hlt, hget⟩ := List.getElem?_eq_some_iff.mp hr
  have hsplit : p.routines = p.routines.take e.routine ++ r :: p.routines.drop (e.routine + 1) := by
    rw [← hget, List.getElem_cons_drop, List.take_append_drop]
  exact ⟨r, _, left, _, hsplit, rfl, hr, hexec, hclock, rfl⟩

namespace Moves

variable {r : τ} {before left after : List τ}

theorem mem (h : G.Moves p e p' r before left after) : r ∈ p.routines :=
  List.mem_of_getElem? h.at_place

theorem mem_routines' (h : G.Moves p e p' r before left after) {u : τ} :
    u ∈ p'.routines ↔ u ∈ left ∨ u ∈ before ++ after := by
  rw [h.routines']
  simp only [List.mem_append]
  tauto

theorem mem_of_mem_others (h : G.Moves p e p' r before left after) {u : τ}
    (hu : u ∈ before ++ after) : u ∈ p.routines := by
  rw [h.routines]
  simp only [List.mem_append, List.mem_cons] at hu ⊢
  tauto

theorem countP_routines (h : G.Moves p e p' r before left after) (f : τ → Bool) :
    p.routines.countP f = (before ++ after).countP f + [r].countP f := by
  rw [h.routines, List.countP_append, List.countP_append, List.countP_cons, List.countP_singleton]
  omega

theorem countP_routines' (h : G.Moves p e p' r before left after) (f : τ → Bool) :
    p'.routines.countP f = (before ++ after).countP f + left.countP f := by
  rw [h.routines', List.countP_append, List.countP_append, List.countP_append]
  omega

end Moves

/-- **The rule.** In the phase `K` of the memory every goroutine is at a point that meets `Q`. -/
theorem quiet_of_run {K : σ → Prop} {Q : τ → Prop} {P : GoPool σ τ → GoEvent ι → Prop}
    (hstep : ∀ p e r memory left, P p e → p.routines[e.routine]? = some r →
      G.exec e.now p.memory r e.input = some (memory, left) → K memory →
      (K p.memory → ∀ u ∈ p.routines, Q u) →
      (∀ u ∈ p.routines, Q u) ∧ ∀ u ∈ left, Q u)
    {es : List (GoEvent ι)} (hp : K p.memory → ∀ u ∈ p.routines, Q u)
    (hP : G.machine.Along P p es) (hrun : G.machine.run p es = some p') :
    K p'.memory → ∀ u ∈ p'.routines, Q u := by
  refine Machine.invariant_along (I := fun p : GoPool σ τ ↦ K p.memory → ∀ u ∈ p.routines, Q u)
    ?_ hp hP hrun
  intro p e p' ih hPe h hK u hu
  obtain ⟨r, before, left, after, hm⟩ := moves_of_step h
  obtain ⟨hold, hnew⟩ := hstep p e r p'.memory left hPe hm.at_place hm.exec hK ih
  exact (hm.mem_routines'.mp hu).elim (hnew u) fun hu ↦ hold u (hm.mem_of_mem_others hu)

end Goroutines
