import DroneBridge.Lib.Machine
import Mathlib.Data.Int.Init

/-!
# Runs by a clock

A machine whose steps are stamped with the time they are taken at. The clock never goes back. Which
labels fit a time is left to the machine: a label that carries a reading of the clock fits the time
it reads.

`until_deadline` is the rule for waiting. What every step keeps, unless it is taken at the deadline
or after it, holds until the deadline.
-/

structure Timed (σ : Type*) where
  state : σ
  clock : ℕ
  deriving DecidableEq, Repr

namespace Machine

variable {σ ε : Type*} (M : Machine σ ε) (fits : ℕ → ε → Prop) [∀ t e, Decidable (fits t e)]

def timed : Machine (Timed σ) (ℕ × ε) where
  step r e :=
    if r.clock ≤ e.1 ∧ fits e.1 e.2 then (M.step r.state e.2).map (⟨·, e.1⟩) else none

variable {M fits}

theorem timed_step_eq_some {r r' : Timed σ} {e : ℕ × ε} :
    (M.timed fits).step r e = some r' ↔
      (r.clock ≤ e.1 ∧ fits e.1 e.2) ∧ M.step r.state e.2 = some r'.state ∧ r'.clock = e.1 := by
  obtain ⟨s', clock⟩ := r'
  rw [timed, Option.ite_none_right_eq_some, Option.map_eq_some_iff]
  refine and_congr_right fun _ ↦ ⟨?_, ?_⟩
  · rintro ⟨s, hs, ⟨⟩⟩
    exact ⟨hs, rfl⟩
  · rintro ⟨hs, rfl⟩
    exact ⟨s', hs, rfl⟩

theorem until_deadline {I : σ → Prop} {P : Timed σ → ℕ × ε → Prop} {d : ℤ}
    (hstep : ∀ r e s', I r.state → P r e → fits e.1 e.2 → M.step r.state e.2 = some s' →
      I s' ∨ d ≤ e.1)
    {r r' : Timed σ} {es : List (ℕ × ε)} (hr : I r.state ∨ d ≤ r.clock)
    (hP : (M.timed fits).Along P r es) (hrun : (M.timed fits).run r es = some r') :
    I r'.state ∨ d ≤ r'.clock := by
  refine invariant_along (I := fun r ↦ I r.state ∨ d ≤ r.clock) ?_ hr hP hrun
  intro r e r' hr hPe h
  obtain ⟨⟨hclock, hfits⟩, hs, hclock'⟩ := timed_step_eq_some.mp h
  rw [hclock']
  rcases hr with hI | hd
  · exact hstep r e _ hI hPe hfits hs
  · exact .inr (Int.le_trans hd (Int.ofNat_le.mpr hclock))

end Machine
