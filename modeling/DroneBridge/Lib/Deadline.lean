import Mathlib.Data.List.Basic
import Mathlib.Data.List.Chain

/-!
# Runs of a periodic task

A task has a deadline and runs at the first tick that reaches it; then the deadline moves on by one
period. Ticks come late, by less than some slack. `OnTime` says what the runs so far have to do with
the deadline: the latest run is one period before it, less than the slack late. From that, each new
run is one period after the one before, give or take the slack (`OnTime.run`).
-/

/-- The runs of a task, newest first, against its next deadline. -/
structure OnTime (period slack start deadline : ℕ) (runs : List ℕ) : Prop where
  /-- The deadline is at most one period after the latest run, or after the start. -/
  deadline_le : deadline ≤ runs.head?.getD start + period
  lt_deadline : ∀ t ∈ runs.head?, t + period < deadline + slack
  spaced : runs.IsChain fun t' t ↦ t + period < t' + slack ∧ t' < t + period + slack

namespace OnTime

variable {period slack start deadline : ℕ} {runs : List ℕ}

theorem nil (h : deadline ≤ start + period) : OnTime period slack start deadline [] :=
  ⟨h, nofun, .nil⟩

theorem run (h : OnTime period slack start deadline runs) {t : ℕ} (hdue : deadline ≤ t)
    (hlate : t < deadline + slack) :
    OnTime period slack start (deadline + period) (t :: runs) := by
  have hle := h.deadline_le
  refine ⟨?_, fun u hu ↦ ?_, List.isChain_cons.mpr ⟨fun u hu ↦ ?_, h.spaced⟩⟩
  · rw [List.head?_cons, Option.getD_some]
    omega
  · obtain rfl := Option.some.inj hu
    omega
  · have hlt := h.lt_deadline u hu
    rw [Option.mem_def.mp hu, Option.getD_some] at hle
    omega

end OnTime
