import DroneBridge.Lib.Machine

/-!
# What has held since a step

In a state of a run one often wants to speak of an earlier step: the step that took a decision, and
what has held from there on. `Since` cuts the run at that step. The rule `since_of_run` gives it to
every state in a region: the step that enters the region is the one to look back at, and inside the
region nothing disturbs what held then.
-/

namespace Machine

variable {σ ε : Type*} (M : Machine σ ε)

/-- Some step of the run met `B`, and `Q` has held in every state from there to the end. -/
def Since (s₀ : σ) (es : List ε) (B : σ → ε → Prop) (Q : σ → Prop) : Prop :=
  ∃ pre e post s₁, es = pre ++ e :: post ∧ M.run s₀ pre = some s₁ ∧ B s₁ e ∧
    ∀ fs s₂, fs <+: e :: post → M.run s₁ fs = some s₂ → Q s₂

variable {M} {s₀ s s' : σ} {es : List ε} {e : ε} {B : σ → ε → Prop} {Q : σ → Prop}

theorem Since.now (h : M.Since s₀ es B Q) (hrun : M.run s₀ es = some s) : Q s := by
  obtain ⟨pre, e, post, s₁, rfl, hpre, -, hQ⟩ := h
  obtain ⟨m, hm, hpost⟩ := run_append_eq_some.mp hrun
  obtain rfl := Option.some.inj (hpre.symm.trans hm)
  exact hQ _ _ (List.prefix_refl _) hpost

theorem since_of_step (hrun : M.run s₀ es = some s) (hstep : M.step s e = some s') (hB : B s e)
    (hQ : Q s) (hQ' : Q s') : M.Since s₀ (es ++ [e]) B Q := by
  refine ⟨es, e, [], s, rfl, hrun, hB, fun fs s₂ hfs hs₂ ↦ ?_⟩
  rcases List.prefix_cons_iff.mp hfs with rfl | ⟨gs, rfl, hgs⟩
  · exact Option.some.inj hs₂ ▸ hQ
  · obtain rfl := List.prefix_nil.mp hgs
    obtain ⟨m, hm, hnil⟩ := run_cons_eq_some.mp hs₂
    obtain rfl := Option.some.inj (hstep.symm.trans hm)
    exact Option.some.inj hnil ▸ hQ'

theorem Since.concat (h : M.Since s₀ es B Q) (hrun : M.run s₀ es = some s)
    (hstep : M.step s e = some s') (hQ' : Q s') : M.Since s₀ (es ++ [e]) B Q := by
  obtain ⟨pre, f, post, s₁, rfl, hpre, hB, hQ⟩ := h
  refine ⟨pre, f, post ++ [e], s₁, by simp, hpre, hB, fun fs s₂ hfs hs₂ ↦ ?_⟩
  rw [← List.cons_append] at hfs
  rcases List.prefix_concat_iff.mp hfs with rfl | hfs
  · -- The whole run, which ends in the state after the new step.
    obtain ⟨m, hm, hlast⟩ := run_concat_eq_some.mp hs₂
    have hs : M.run s₀ (pre ++ f :: post) = some m := run_append_eq_some.mpr ⟨s₁, hpre, hm⟩
    obtain rfl := Option.some.inj (hrun.symm.trans hs)
    exact Option.some.inj (hstep.symm.trans hlast) ▸ hQ'
  · exact hQ fs s₂ hfs hs₂

/-- **The rule.** The step into a region meets `B`, with `Q` before and after, and steps inside keep
`Q`. Then in the region `Q` has held since a step that met `B`. `J` is what every run keeps. -/
theorem since_of_run {J K : σ → Prop} (hJ₀ : J s₀) (hK₀ : ¬ K s₀)
    (hJ : ∀ s e s', J s → M.step s e = some s' → J s')
    (henter : ∀ s e s', J s → M.step s e = some s' → ¬ K s → K s' → B s e ∧ Q s ∧ Q s')
    (hstay : ∀ s e s', J s → M.step s e = some s' → K s → K s' → Q s → Q s')
    (hrun : M.run s₀ es = some s) (hK : K s) : M.Since s₀ es B Q := by
  revert hK
  refine history_induction (I := fun es s ↦ K s → M.Since s₀ es B Q)
    (fun hK ↦ absurd hK hK₀) ?_ hrun
  intro es s e s' hrun ih hstep hK'
  have hs : J s := invariant hJ hJ₀ hrun
  by_cases hK : K s
  · exact (ih hK).concat hrun hstep (hstay s e s' hs hstep hK hK' ((ih hK).now hrun))
  · obtain ⟨hB, hQ, hQ'⟩ := henter s e s' hs hstep hK hK'
    exact since_of_step hrun hstep hB hQ hQ'

end Machine
