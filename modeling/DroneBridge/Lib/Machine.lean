import Mathlib.Data.List.Basic
import Mathlib.Data.List.Induction

/-!
# Runs of a labelled machine

A machine is a partial step function on states and labels. The label of a step carries every
choice the environment makes, so a state and a label determine the next state, and `none` says
that the label is not enabled. Concurrency is interleaving: the label says which party moves.

Three rules carry the inductions of a development built on this file.

* `invariant`: what one step preserves, a whole run preserves.
* `invariant_along`: the same, for runs all of whose steps meet a side condition.
* `history_induction`: an invariant that also speaks about the labels seen so far, extended one
  label at a time at the end of the run.
-/

/-- A partial step function on states and labels. -/
structure Machine (σ ε : Type*) where
  /-- The state after a step, or `none` when the label is not enabled. -/
  step : σ → ε → Option σ

namespace Machine

variable {σ ε : Type*} (M : Machine σ ε)

/-- The state after a whole run, or `none` when some label of it is not enabled. -/
def run (s : σ) : List ε → Option σ
  | [] => some s
  | e :: es => (M.step s e).bind fun s' ↦ run s' es

@[simp] theorem run_nil (s : σ) : M.run s [] = some s := rfl

theorem run_cons (s : σ) (e : ε) (es : List ε) :
    M.run s (e :: es) = (M.step s e).bind fun s' ↦ M.run s' es := rfl

variable {M}

theorem run_cons_eq_some {s s' : σ} {e : ε} {es : List ε} :
    M.run s (e :: es) = some s' ↔ ∃ m, M.step s e = some m ∧ M.run m es = some s' := by
  rw [run_cons, Option.bind_eq_some_iff]

theorem run_append_eq_some {s s' : σ} {es fs : List ε} :
    M.run s (es ++ fs) = some s' ↔ ∃ m, M.run s es = some m ∧ M.run m fs = some s' := by
  induction es generalizing s with
  | nil => simp
  | cons e es ih =>
    rw [List.cons_append, run_cons_eq_some]
    constructor
    · rintro ⟨m, hm, hrun⟩
      obtain ⟨n, hn, hfs⟩ := ih.mp hrun
      exact ⟨n, run_cons_eq_some.mpr ⟨m, hm, hn⟩, hfs⟩
    · rintro ⟨n, hn, hfs⟩
      obtain ⟨m, hm, hes⟩ := run_cons_eq_some.mp hn
      exact ⟨m, hm, ih.mpr ⟨n, hes, hfs⟩⟩

theorem run_concat_eq_some {s s' : σ} {es : List ε} {e : ε} :
    M.run s (es ++ [e]) = some s' ↔ ∃ m, M.run s es = some m ∧ M.step m e = some s' := by
  rw [run_append_eq_some]
  simp [run_cons]

/-! ## Induction rules -/

theorem invariant {I : σ → Prop} (hstep : ∀ s e s', I s → M.step s e = some s' → I s')
    {s s' : σ} {es : List ε} (hs : I s) (hrun : M.run s es = some s') : I s' := by
  induction es generalizing s with
  | nil => rw [run_nil, Option.some.injEq] at hrun; exact hrun ▸ hs
  | cons e es ih =>
    obtain ⟨m, hm, hes⟩ := run_cons_eq_some.mp hrun
    exact ih (hstep s e m hs hm) hes

/-- An invariant over the labels seen so far and the state they lead to. -/
theorem history_induction {s₀ : σ} {I : List ε → σ → Prop} (hnil : I [] s₀)
    (hstep : ∀ es s e s', M.run s₀ es = some s → I es s → M.step s e = some s' → I (es ++ [e]) s')
    {es : List ε} {s : σ} (hrun : M.run s₀ es = some s) : I es s := by
  induction es using List.reverseRecOn generalizing s with
  | nil => rw [run_nil, Option.some.injEq] at hrun; exact hrun ▸ hnil
  | append_singleton es e ih =>
    obtain ⟨m, hm, he⟩ := run_concat_eq_some.mp hrun
    exact hstep es m e s hm (ih hm) he

/-! ## Side conditions along a run -/

variable (M) in
/-- Every step of the run meets `P` at the state it starts from. -/
def Along (P : σ → ε → Prop) (s : σ) : List ε → Prop
  | [] => True
  | e :: es => P s e ∧ ∀ s', M.step s e = some s' → Along P s' es

@[simp] theorem along_nil (P : σ → ε → Prop) (s : σ) : M.Along P s [] := trivial

theorem along_cons {P : σ → ε → Prop} {s m : σ} {e : ε} {es : List ε}
    (hm : M.step s e = some m) : M.Along P s (e :: es) ↔ P s e ∧ M.Along P m es := by
  constructor
  · rintro ⟨hP, hes⟩
    exact ⟨hP, hes m hm⟩
  · rintro ⟨hP, hes⟩
    refine ⟨hP, fun s' hs' ↦ ?_⟩
    rw [hm, Option.some.injEq] at hs'
    exact hs' ▸ hes

@[simp] theorem along_singleton {P : σ → ε → Prop} {s : σ} {e : ε} : M.Along P s [e] ↔ P s e := by
  simp [Along]

theorem along_append {P : σ → ε → Prop} {s m : σ} {es fs : List ε} (hm : M.run s es = some m) :
    M.Along P s (es ++ fs) ↔ M.Along P s es ∧ M.Along P m fs := by
  induction es generalizing s with
  | nil =>
    rw [run_nil, Option.some.injEq] at hm
    simp [hm]
  | cons e es ih =>
    obtain ⟨n, hn, hes⟩ := run_cons_eq_some.mp hm
    rw [List.cons_append, along_cons hn, along_cons hn, ih hes, and_assoc]

/-- Along a concrete run a decidable condition can be evaluated. -/
instance decidableAlong (P : σ → ε → Prop) [∀ s e, Decidable (P s e)] :
    ∀ s es, Decidable (M.Along P s es)
  | _, [] => .isTrue trivial
  | s, e :: es =>
    match hm : M.step s e with
    | none =>
      decidable_of_iff (P s e)
        ⟨fun hP ↦ ⟨hP, fun _ hs' ↦ absurd (hm.symm.trans hs') nofun⟩, And.left⟩
    | some m =>
      have := decidableAlong P m es
      decidable_of_iff (P s e ∧ M.Along P m es) (along_cons hm).symm

/-- A condition on labels alone that holds of all labels of a run holds along it. -/
theorem along_of_forall {P : ε → Prop} {es : List ε} (h : ∀ e ∈ es, P e) (s : σ) :
    M.Along (fun _ e ↦ P e) s es := by
  induction es generalizing s with
  | nil => trivial
  | cons e es ih =>
    exact ⟨h e List.mem_cons_self, fun s' _ ↦ ih (fun f hf ↦ h f (List.mem_cons_of_mem _ hf)) s'⟩

theorem Along.and {P Q : σ → ε → Prop} {s : σ} {es : List ε} (hP : M.Along P s es)
    (hQ : M.Along Q s es) : M.Along (fun s e ↦ P s e ∧ Q s e) s es := by
  induction es generalizing s with
  | nil => trivial
  | cons e es ih => exact ⟨⟨hP.1, hQ.1⟩, fun s' hs' ↦ ih (hP.2 s' hs') (hQ.2 s' hs')⟩

theorem Along.mono {P Q : σ → ε → Prop} {s : σ} {es : List ε} (hP : M.Along P s es)
    (h : ∀ s e, P s e → Q s e) : M.Along Q s es := by
  induction es generalizing s with
  | nil => trivial
  | cons e es ih => exact ⟨h s e hP.1, fun s' hs' ↦ ih (hP.2 s' hs')⟩

/-- A condition that fails along a run fails at one of its steps. -/
theorem exists_of_not_along {P : σ → ε → Prop} {s : σ} {es : List ε} (h : ¬ M.Along P s es) :
    ∃ fs e gs m, es = fs ++ e :: gs ∧ M.run s fs = some m ∧ ¬ P m e := by
  induction es generalizing s with
  | nil => exact absurd trivial h
  | cons e es ih =>
    by_cases hP : P s e
    · obtain ⟨s', hs', hes⟩ : ∃ s', M.step s e = some s' ∧ ¬ M.Along P s' es := by
        by_contra hno
        exact h ⟨hP, fun s' hs' ↦ by_contra fun hes ↦ hno ⟨s', hs', hes⟩⟩
      obtain ⟨fs, f, gs, m, rfl, hrun, hnot⟩ := ih hes
      exact ⟨e :: fs, f, gs, m, rfl, run_cons_eq_some.mpr ⟨s', hs', hrun⟩, hnot⟩
    · exact ⟨[], e, es, s, rfl, rfl, hP⟩

/-- The invariant rule for runs all of whose steps meet `P`. -/
theorem invariant_along {I : σ → Prop} {P : σ → ε → Prop}
    (hstep : ∀ s e s', I s → P s e → M.step s e = some s' → I s')
    {s s' : σ} {es : List ε} (hs : I s) (hP : M.Along P s es) (hrun : M.run s es = some s') :
    I s' := by
  induction es generalizing s with
  | nil => rw [run_nil, Option.some.injEq] at hrun; exact hrun ▸ hs
  | cons e es ih =>
    obtain ⟨m, hm, hes⟩ := run_cons_eq_some.mp hrun
    rw [along_cons hm] at hP
    exact ih (hstep s e m hs hP.1 hm) hP.2 hes

/-- An invariant over the labels seen so far, for runs all of whose steps meet `P`. -/
theorem history_along {s₀ : σ} {I : List ε → σ → Prop} {P : σ → ε → Prop} (hnil : I [] s₀)
    (hstep : ∀ es s e s', I es s → P s e → M.step s e = some s' → I (es ++ [e]) s')
    {es : List ε} {s : σ} (hP : M.Along P s₀ es) (hrun : M.run s₀ es = some s) : I es s := by
  induction es using List.reverseRecOn generalizing s with
  | nil => rw [run_nil, Option.some.injEq] at hrun; exact hrun ▸ hnil
  | append_singleton es e ih =>
    obtain ⟨m, hm, he⟩ := run_concat_eq_some.mp hrun
    rw [along_append hm, along_singleton] at hP
    exact hstep es m e s (ih hP.1 hm) hP.2 he

/-- Where every step keeps an invariant exactly when it meets `P`, a run stays within the invariant
exactly when `P` holds along it. `J` is what every run keeps. -/
theorem forall_run_iff_along {I J : σ → Prop} {P : σ → ε → Prop}
    (hJ : ∀ s e s', J s → M.step s e = some s' → J s')
    (hstep : ∀ s e s', J s → I s → M.step s e = some s' → (I s' ↔ P s e))
    {s t : σ} {es : List ε} (hs : J s) (hI : I s) (hrun : M.run s es = some t) :
    (∀ fs m, fs <+: es → M.run s fs = some m → I m) ↔ M.Along P s es := by
  constructor
  · intro hall
    induction es generalizing s with
    | nil => trivial
    | cons e es ih =>
      obtain ⟨m, hm, hes⟩ := run_cons_eq_some.mp hrun
      have hIm : I m := hall [e] m ⟨es, rfl⟩ (run_cons_eq_some.mpr ⟨m, hm, rfl⟩)
      refine (along_cons hm).mpr ⟨(hstep s e m hs hI hm).mp hIm, ih (hJ s e m hs hm) hIm hes ?_⟩
      intro fs n hfs hn
      exact hall (e :: fs) n (List.cons_prefix_cons.mpr ⟨rfl, hfs⟩)
        (run_cons_eq_some.mpr ⟨m, hm, hn⟩)
  · rintro hP fs m ⟨gs, rfl⟩ hm
    refine (invariant_along (I := fun s ↦ J s ∧ I s) ?_ ⟨hs, hI⟩
      ((along_append hm).mp hP).1 hm).2
    intro s e s' ⟨hs, hI⟩ hPe h
    exact ⟨hJ s e s' hs h, (hstep s e s' hs hI h).mpr hPe⟩

end Machine
