import Mathlib.Data.Int.Init

/-!
# Instants and durations

Instants are naturals: nanoseconds since a zero instant that lies before every clock reading, so
that "the zero instant" doubles as "never". Durations are integers, signed nanoseconds. A
difference of instants is exact here; a clock library that saturates it at the 64-bit range
answers every comparison with a 64-bit duration in the same way, and comparisons are the only use
made of differences.
-/

namespace Clock

def millisecond : ℤ := 1000000

def second : ℤ := 1000000000

/-- From the start of year 1 to a second of the Unix epoch, in signed 64 bits. -/
def unix (sec : UInt64) : ℤ := (BitVec.ofNat 64 (sec.toNat + 62135596800)).toInt

/-- Whether an instant lies before a whole second, counted from the zero instant. -/
def before (t : ℕ) (sec : ℤ) : Bool := (t : ℤ) < sec * second

def isZero (t : ℕ) : Bool := t == 0

/-- The instant `d` after `t`. -/
def add (t : ℕ) (d : ℤ) : ℕ := ((t : ℤ) + d).toNat

/-- The signed time from `u` to `t`. -/
def sub (t u : ℕ) : ℤ := (t : ℤ) - u

theorem isZero_eq_false_iff {t : ℕ} : isZero t = false ↔ 0 < t := by
  rw [isZero, beq_eq_false_iff_ne, ne_eq, Nat.pos_iff_ne_zero]

theorem before_iff {t : ℕ} {sec : ℤ} : before t sec = true ↔ (t : ℤ) < sec * second :=
  decide_eq_true_iff

theorem coe_add {t : ℕ} {d : ℤ} (hd : 0 ≤ d) : ((add t d : ℕ) : ℤ) = t + d :=
  Int.toNat_of_nonneg (by omega)

theorem sub_lt_iff {t u : ℕ} {d : ℤ} : sub t u < d ↔ (t : ℤ) < u + d := by
  rw [sub]; omega

end Clock
