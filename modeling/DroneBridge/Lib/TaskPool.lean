import DroneBridge.Lib.Machine

/-!
# Tasks that run in any order

Calls are made one after the other, and each leaves some tasks behind. A task runs at any time after
the call that left it, in any order with the others; running it changes the state and may leave one
more task in its place.

A flag that tasks write has, when all is done, the value that was written last. If the last call has
left a task that writes `b`, the flag ends as `b` whatever the order exactly when none of the tasks
that were still to run at that call writes the other value: such a task could be the last one.
-/

/-- What calls and tasks do. -/
structure TaskSystem (σ τ κ : Type*) where
  /-- The state after a call, and the tasks it leaves. -/
  call : κ → σ → σ × List τ
  /-- The state after a task, and the task it leaves in its place. -/
  exec : τ → σ → σ × Option τ

structure TaskPool (σ τ : Type*) where
  state : σ
  pending : List τ
  deriving DecidableEq, Repr

inductive TaskEvent (κ : Type*)
  | call (k : κ)
  /-- The pending task with this number runs. -/
  | exec (i : ℕ)
  deriving DecidableEq, Repr

def TaskEvent.isExec {κ : Type*} : TaskEvent κ → Bool
  | .call _ => false
  | .exec _ => true

namespace TaskSystem

variable {σ τ κ : Type*} (T : TaskSystem σ τ κ)

def execAt (p : TaskPool σ τ) (i : ℕ) : Option (TaskPool σ τ) :=
  (p.pending[i]?).map fun t ↦
    ⟨(T.exec t p.state).1,
      p.pending.take i ++ ((T.exec t p.state).2.toList ++ p.pending.drop (i + 1))⟩

def machine : Machine (TaskPool σ τ) (TaskEvent κ) where
  step p
    | .call k => some ⟨(T.call k p.state).1, p.pending ++ (T.call k p.state).2⟩
    | .exec i => T.execAt p i

variable {T}

theorem execAt_eq_some {p p' : TaskPool σ τ} {i : ℕ} :
    T.execAt p i = some p' ↔ ∃ t, p.pending[i]? = some t ∧ p' = ⟨(T.exec t p.state).1,
      p.pending.take i ++ ((T.exec t p.state).2.toList ++ p.pending.drop (i + 1))⟩ := by
  rw [execAt, Option.map_eq_some_iff]
  exact exists_congr fun t ↦ and_congr_right fun _ ↦ eq_comm

theorem step_exec (s : σ) (ps qs : List τ) (t : τ) :
    T.machine.step ⟨s, ps ++ t :: qs⟩ (.exec ps.length) =
      some ⟨(T.exec t s).1, ps ++ ((T.exec t s).2.toList ++ qs)⟩ := by
  refine execAt_eq_some.mpr ⟨t, by simp, ?_⟩
  dsimp only
  rw [List.take_left' rfl, ← List.drop_drop, List.drop_left' rfl, List.drop_one, List.tail_cons]

theorem execAt_split {p p' : TaskPool σ τ} {i : ℕ} (h : T.execAt p i = some p') :
    ∃ ps t qs, p.pending = ps ++ t :: qs ∧
      p' = ⟨(T.exec t p.state).1, ps ++ ((T.exec t p.state).2.toList ++ qs)⟩ := by
  obtain ⟨t, ht, rfl⟩ := execAt_eq_some.mp h
  obtain ⟨hi, rfl⟩ := List.getElem?_eq_some_iff.mp ht
  refine ⟨p.pending.take i, _, p.pending.drop (i + 1), ?_, rfl⟩
  rw [← List.drop_eq_getElem_cons hi, List.take_append_drop]

/-! ## Running some of the tasks -/

/-- Tasks leave nothing behind after so many runs. -/
structure Rank (T : TaskSystem σ τ κ) where
  rank : τ → ℕ
  exec_lt : ∀ t s t', (T.exec t s).2 = some t' → rank t' < rank t

/-- The task behind `ps`, and what it leaves, can be run to the end. -/
theorem exists_run_one (R : Rank T) (ps qs : List τ) (t : τ) (s : σ) :
    ∃ (es : List (TaskEvent κ)) (s' : σ), (∀ e ∈ es, e.isExec = true) ∧
      T.machine.run ⟨s, ps ++ t :: qs⟩ es = some ⟨s', ps ++ qs⟩ := by
  induction hn : R.rank t using Nat.strongRecOn generalizing t s with
  | ind n ih =>
    have hstep := step_exec (T := T) s ps qs t
    cases hleft : (T.exec t s).2 with
    | none =>
      rw [hleft] at hstep
      exact ⟨[.exec ps.length], _, by simp [TaskEvent.isExec],
        Machine.run_cons_eq_some.mpr ⟨_, hstep, rfl⟩⟩
    | some t' =>
      rw [hleft] at hstep
      obtain ⟨es, s', hes, hrun⟩ := ih _ (hn ▸ R.exec_lt t s t' hleft) t' (T.exec t s).1 rfl
      exact ⟨.exec ps.length :: es, s', List.forall_mem_cons.mpr ⟨rfl, hes⟩,
        Machine.run_cons_eq_some.mpr ⟨_, hstep, hrun⟩⟩

/-- Any block of tasks can be run to the end before the others. -/
theorem exists_run_block (R : Rank T) (ps block qs : List τ) (s : σ) :
    ∃ (es : List (TaskEvent κ)) (s' : σ), (∀ e ∈ es, e.isExec = true) ∧
      T.machine.run ⟨s, ps ++ (block ++ qs)⟩ es = some ⟨s', ps ++ qs⟩ := by
  induction block generalizing s with
  | nil => exact ⟨[], s, List.forall_mem_nil _, rfl⟩
  | cons t block ih =>
    obtain ⟨es, s₁, hes, hrun⟩ := exists_run_one R ps (block ++ qs) t s
    obtain ⟨fs, s₂, hfs, hrun'⟩ := ih s₁
    refine ⟨es ++ fs, s₂, fun e he ↦ ?_, Machine.run_append_eq_some.mpr ⟨_, hrun, hrun'⟩⟩
    exact (List.mem_append.mp he).elim (hes e) (hfs e)

theorem exists_run_last (R : Rank T) {p : TaskPool σ τ} {t : τ} (ht : t ∈ p.pending) :
    ∃ (es : List (TaskEvent κ)) (s' : σ), (∀ e ∈ es, e.isExec = true) ∧
      T.machine.run p es = some ⟨s', [t]⟩ := by
  obtain ⟨ps, qs, hsplit⟩ := List.append_of_mem ht
  obtain ⟨es, s₁, hes, hrun⟩ := exists_run_block R (ps ++ [t]) qs [] p.state
  obtain ⟨fs, s₂, hfs, hrun'⟩ := exists_run_block R [] ps [t] s₁
  refine ⟨es ++ fs, s₂, fun e he ↦ (List.mem_append.mp he).elim (hes e) (hfs e),
    Machine.run_append_eq_some.mpr ⟨⟨s₁, ps ++ [t]⟩, ?_, hrun'⟩⟩
  rw [List.append_nil, List.append_assoc, List.append_nil] at hrun
  have hp : p = ⟨p.state, ps ++ ([t] ++ qs)⟩ := by rw [List.singleton_append, ← hsplit]
  rwa [hp]

/-! ## A flag -/

/-- A flag of the state that tasks write. What a task leaves does not write it. -/
structure Flag (T : TaskSystem σ τ κ) where
  get : σ → Bool
  writes : τ → Option Bool
  exec_get : ∀ t s, get (T.exec t s).1 = (writes t).getD (get s)
  exec_left : ∀ t s t', (T.exec t s).2 = some t' → writes t' = none

variable (F : Flag T) {p p' : TaskPool σ τ} {b : Bool}

/-- Nobody writes the other value, and the flag is or will be `b`. -/
structure Flag.Heading (p : TaskPool σ τ) (b : Bool) : Prop where
  none_other : ∀ t ∈ p.pending, F.writes t ≠ some (!b)
  some_one : F.get p.state = b ∨ ∃ t ∈ p.pending, F.writes t = some b

variable {F}

theorem Flag.Heading.execAt (h : F.Heading p b) {i : ℕ} (hexec : T.execAt p i = some p') :
    F.Heading p' b := by
  obtain ⟨ps, t, qs, hsplit, rfl⟩ := execAt_split hexec
  have hleft : ∀ u ∈ (T.exec t p.state).2.toList, F.writes u = none := fun u hu ↦
    F.exec_left t p.state u (Option.mem_toList.mp hu)
  have hother := h.none_other
  rw [hsplit, List.forall_mem_append, List.forall_mem_cons] at hother
  obtain ⟨hps, ht, hqs⟩ := hother
  refine ⟨?_, ?_⟩
  · refine List.forall_mem_append.mpr ⟨hps, List.forall_mem_append.mpr ⟨fun u hu ↦ ?_, hqs⟩⟩
    rw [hleft u hu]
    exact Option.some_ne_none _ |>.symm
  · dsimp only
    rw [F.exec_get]
    cases hw : F.writes t with
    | some c =>
      -- a task that writes at all writes `b`
      refine .inl ?_
      rw [hw] at ht
      cases b <;> cases c <;> simp_all
    | none =>
      refine h.some_one.imp id fun ⟨u, hu, hub⟩ ↦ ⟨u, ?_, hub⟩
      rw [hsplit, List.mem_append, List.mem_cons] at hu
      rw [List.mem_append, List.mem_append]
      rcases hu with hu | rfl | hu
      · exact .inl hu
      · rw [hw] at hub
        exact (Option.some_ne_none b hub.symm).elim
      · exact .inr (.inr hu)

theorem Flag.Heading.run (h : F.Heading p b) {es : List (TaskEvent κ)}
    (hes : ∀ e ∈ es, e.isExec = true) (hrun : T.machine.run p es = some p') : F.Heading p' b := by
  induction es generalizing p with
  | nil => exact Option.some.inj hrun ▸ h
  | cons e es ih =>
    obtain ⟨p₁, hstep, hrest⟩ := Machine.run_cons_eq_some.mp hrun
    cases e with
    | call k => exact absurd (hes _ List.mem_cons_self) Bool.false_ne_true
    | exec i => exact ih (h.execAt hstep) (fun e he ↦ hes e (List.mem_cons_of_mem _ he)) hrest

theorem Flag.exists_run_writes (R : Rank T) {t : τ} {c : Bool} (ht : t ∈ p.pending)
    (hw : F.writes t = some c) :
    ∃ (es : List (TaskEvent κ)) (s' : σ), (∀ e ∈ es, e.isExec = true) ∧
      T.machine.run p es = some ⟨s', []⟩ ∧ F.get s' = c := by
  obtain ⟨es, s₁, hes, hrun⟩ := exists_run_last R ht
  have hstep := step_exec (T := T) s₁ [] [] t
  -- only `t` is left: after its step the flag is `c`, and what it leaves does not write
  have hheading : F.Heading ⟨(T.exec t s₁).1, (T.exec t s₁).2.toList⟩ c := by
    refine ⟨fun u hu ↦ ?_, .inl ?_⟩
    · rw [F.exec_left t s₁ u (Option.mem_toList.mp hu)]
      exact (Option.some_ne_none _).symm
    · dsimp only
      rw [F.exec_get, hw, Option.getD_some]
  obtain ⟨fs, s₂, hfs, hrun'⟩ := exists_run_block R [] (T.exec t s₁).2.toList [] (T.exec t s₁).1
  have hend := hheading.run hfs (by simpa using hrun')
  refine ⟨es ++ .exec 0 :: fs, s₂, ?_, Machine.run_append_eq_some.mpr ⟨_, hrun,
    Machine.run_cons_eq_some.mpr ⟨_, hstep, hrun'⟩⟩, hend.some_one.resolve_right (by simp)⟩
  exact List.forall_mem_append.mpr ⟨hes, List.forall_mem_cons.mpr ⟨rfl, hfs⟩⟩

/-- **The last word.** With a task that writes `b` still to run, the flag is `b` when all is done,
whatever the order, exactly when no task still to run writes the other value. -/
theorem Flag.settles_iff (R : Rank T) (hb : ∃ t ∈ p.pending, F.writes t = some b) :
    (∀ es p', (∀ e ∈ es, e.isExec = true) → T.machine.run p es = some p' → p'.pending = [] →
      F.get p'.state = b) ↔ ∀ t ∈ p.pending, F.writes t ≠ some (!b) := by
  refine ⟨fun hall t ht hw ↦ ?_, fun hnone es p' hes hrun hdone ↦ ?_⟩
  · obtain ⟨es, s', hes, hrun, hget⟩ := F.exists_run_writes R ht hw
    have := hall es _ hes hrun rfl
    rw [hget] at this
    exact absurd this (by simp)
  · have hend : F.Heading p' b := Flag.Heading.run ⟨hnone, .inr hb⟩ hes hrun
    refine hend.some_one.resolve_right ?_
    rw [hdone]
    exact fun ⟨t, ht, _⟩ ↦ List.not_mem_nil ht

end TaskSystem
