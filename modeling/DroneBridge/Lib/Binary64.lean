import Mathlib.Data.Int.Log
import Mathlib.Data.Rat.Floor
import Mathlib.Tactic.Linarith
import Mathlib.Tactic.Positivity
import Mathlib.Tactic.FieldSimp

/-!
# Rounding to 64-bit floats

A number in the normal range of 64-bit floats is rounded to the nearest number with 53 binary
digits, and to the one with an even last digit between two. The digits are counted from the power of
two below the number, so the spacing of the floats doubles from one power of two to the next.

Rounding is monotone, and numbers with 53 digits stay as they are. That is enough to compare a
rounded number with a float. Where more is needed, a rounded number is a multiple of the spacing and
off by half of it at most. Infinities, subnormal numbers and the sign of zero have no place here.
-/

namespace Binary64

/-- The nearest whole number, and the even one between two. -/
def roundEven (x : ℚ) : ℤ :=
  if x - ⌊x⌋ < 1 / 2 then ⌊x⌋
  else if 1 / 2 < x - ⌊x⌋ then ⌊x⌋ + 1
  else ⌊x⌋ + ⌊x⌋ % 2

theorem abs_roundEven_sub_le (x : ℚ) : |roundEven x - x| ≤ 1 / 2 := by
  have hlo := Int.floor_le x
  have hhi := Int.lt_floor_add_one x
  rw [abs_le, roundEven]
  split_ifs with h₁ h₂
  · constructor <;> linarith
  · push_cast
    constructor <;> linarith
  · rcases Int.emod_two_eq_zero_or_one ⌊x⌋ with h | h <;> rw [h] <;> push_cast <;>
      constructor <;> linarith

theorem roundEven_intCast (n : ℤ) : roundEven n = n := by
  simp [roundEven]

/-- Two numbers round to different whole numbers only in their own order. -/
theorem roundEven_mono {x y : ℚ} (hxy : x ≤ y) : roundEven x ≤ roundEven y := by
  by_contra hlt
  have hx := abs_le.mp (abs_roundEven_sub_le x)
  have hy := abs_le.mp (abs_roundEven_sub_le y)
  have hstep : (roundEven y : ℚ) + 1 ≤ roundEven x := by
    exact_mod_cast Int.add_one_le_of_lt (not_le.mp hlt)
  have heq : x = y := by linarith
  exact hlt (heq ▸ le_rfl)

theorem le_roundEven {n : ℕ} {x : ℚ} (h : n ≤ x) : (n : ℚ) ≤ roundEven x := by
  have hround := roundEven_mono h
  rw [← Int.cast_natCast, roundEven_intCast] at hround
  exact_mod_cast hround

theorem roundEven_le {n : ℕ} {x : ℚ} (h : x ≤ n) : (roundEven x : ℚ) ≤ n := by
  have hround := roundEven_mono h
  rw [← Int.cast_natCast (R := ℚ), roundEven_intCast] at hround
  exact_mod_cast hround

/-- The spacing of the floats around `q`. -/
def ulp (q : ℚ) : ℚ := 2 ^ (Int.log 2 |q| - 52)

def round (q : ℚ) : ℚ := roundEven (q / ulp q) * ulp q

theorem ulp_pos (q : ℚ) : 0 < ulp q := zpow_pos two_pos _

theorem ulp_mul_two_pow (q : ℚ) : 2 ^ 52 * ulp q = 2 ^ Int.log 2 |q| := by
  rw [ulp, ← zpow_natCast, ← zpow_add₀ two_ne_zero]
  congr 1
  push_cast
  ring

theorem abs_round_sub_le (q : ℚ) : |round q - q| ≤ ulp q / 2 := by
  have hpos := ulp_pos q
  have hscale : round q - q = (roundEven (q / ulp q) - q / ulp q) * ulp q := by
    rw [round, sub_mul, div_mul_cancel₀ q hpos.ne']
  rw [hscale, abs_mul, abs_of_pos hpos]
  linarith [mul_le_mul_of_nonneg_right (abs_roundEven_sub_le (q / ulp q)) hpos.le]

variable {q a b : ℚ}

/-! ## Between powers of two -/

theorem zpow_le_round (hq : 0 < q) : 2 ^ Int.log 2 q ≤ round q := by
  have hpos := ulp_pos q
  have hscale := ulp_mul_two_pow q
  rw [abs_of_pos hq] at hscale
  have hle : ((2 ^ 52 : ℕ) : ℚ) ≤ q / ulp q := by
    rw [le_div_iff₀ hpos, Nat.cast_pow, Nat.cast_ofNat, hscale]
    exact Int.zpow_log_le_self one_lt_two hq
  have hround := le_roundEven hle
  rw [Nat.cast_pow, Nat.cast_ofNat] at hround
  rw [← hscale, round]
  exact mul_le_mul_of_nonneg_right hround hpos.le

theorem round_le_zpow (hq : 0 < q) : round q ≤ 2 ^ (Int.log 2 q + 1) := by
  have hpos := ulp_pos q
  have hscale : 2 ^ 53 * ulp q = 2 ^ (Int.log 2 q + 1) := by
    have h := ulp_mul_two_pow q
    rw [abs_of_pos hq] at h
    rw [zpow_add_one₀ two_ne_zero, ← h]
    ring
  have hle : q / ulp q ≤ ((2 ^ 53 : ℕ) : ℚ) := by
    rw [div_le_iff₀ hpos, Nat.cast_pow, Nat.cast_ofNat, hscale]
    exact (Int.lt_zpow_succ_log_self one_lt_two q).le
  have hround := roundEven_le hle
  rw [Nat.cast_pow, Nat.cast_ofNat] at hround
  rw [← hscale, round]
  exact mul_le_mul_of_nonneg_right hround hpos.le

theorem round_pos (hq : 0 < q) : 0 < round q := (zpow_pos two_pos _).trans_le (zpow_le_round hq)

theorem round_neg_of_neg (hq : q < 0) : round q < 0 := by
  have hpos := ulp_pos q
  have hle : q / ulp q ≤ ((-1 : ℤ) : ℚ) := by
    have hlog := Int.zpow_log_le_self one_lt_two (abs_pos.mpr hq.ne)
    rw [Nat.cast_ofNat, ← ulp_mul_two_pow q, abs_of_neg hq] at hlog
    rw [div_le_iff₀ hpos]
    push_cast
    linarith
  have hround := roundEven_mono hle
  rw [roundEven_intCast] at hround
  have hcast : (roundEven (q / ulp q) : ℚ) < 0 := by exact_mod_cast hround.trans_lt neg_one_lt_zero
  exact mul_neg_of_neg_of_pos hcast hpos

/-- **Rounding keeps the order.** Between two powers of two it is rounding to whole numbers; numbers
on different sides of a power of two stay there. -/
theorem round_mono (ha : 0 < a) (hab : a ≤ b) : round a ≤ round b := by
  have hb := ha.trans_le hab
  rcases (Int.log_mono_right ha hab : Int.log 2 a ≤ Int.log 2 b).eq_or_lt with hlog | hlog
  · have hulp : ulp a = ulp b := by rw [ulp, ulp, abs_of_pos ha, abs_of_pos hb, hlog]
    have hpos := ulp_pos b
    have hround := roundEven_mono (div_le_div_of_nonneg_right hab hpos.le)
    rw [round, round, hulp]
    exact mul_le_mul_of_nonneg_right (by exact_mod_cast hround) hpos.le
  · calc round a ≤ 2 ^ (Int.log 2 a + 1) := round_le_zpow ha
      _ ≤ 2 ^ Int.log 2 b := zpow_le_zpow_right₀ one_le_two hlog
      _ ≤ round b := zpow_le_round hb

/-! ## The floats -/

theorem round_of_eq_mul_ulp {m : ℤ} (h : q = m * ulp q) : round q = q := by
  have hdiv : q / ulp q = m := by
    rw [div_eq_iff (ulp_pos q).ne']
    exact h
  rw [round, hdiv, roundEven_intCast, ← h]

/-- **Numbers of 53 digits are floats.** -/
theorem round_of_digits {m : ℤ} {z : ℤ} (hm : 0 < m) (hlt : m < 2 ^ 53) :
    round (m * 2 ^ z) = m * 2 ^ z := by
  have hmq : (0 : ℚ) < m := by exact_mod_cast hm
  have hq : (0 : ℚ) < m * 2 ^ z := mul_pos hmq (zpow_pos two_pos z)
  have hlog : Int.log 2 ((m : ℚ) * 2 ^ z) ≤ z + 52 := by
    have hbound : (m : ℚ) * 2 ^ z < 2 ^ (z + 53) := by
      rw [zpow_add₀ two_ne_zero, mul_comm]
      exact mul_lt_mul_of_pos_left (by exact_mod_cast hlt) (zpow_pos two_pos z)
    have := (Int.lt_zpow_iff_log_lt one_lt_two hq).mp hbound
    omega
  obtain ⟨d, hd⟩ := Int.le.dest hlog
  refine round_of_eq_mul_ulp (m := m * 2 ^ d) ?_
  have hz : z = (d : ℤ) + (Int.log 2 |(m : ℚ) * 2 ^ z| - 52) := by
    rw [abs_of_pos hq]
    omega
  rw [ulp]
  nth_rewrite 1 [hz]
  rw [zpow_add₀ two_ne_zero, zpow_natCast]
  push_cast
  ring

theorem round_div_two_pow {m : ℕ} (hpos : 0 < m) (hlt : m < 2 ^ 53) (k : ℕ) :
    round (m / 2 ^ k) = m / 2 ^ k := by
  have h := round_of_digits (m := m) (z := -k) (by exact_mod_cast hpos) (by exact_mod_cast hlt)
  rwa [Int.cast_natCast, zpow_neg, zpow_natCast, ← div_eq_mul_inv] at h

theorem round_natCast {n : ℕ} (hpos : 0 < n) (hlt : n < 2 ^ 53) : round n = n := by
  simpa using round_div_two_pow hpos hlt 0

/-- A float at or below `q` is at or below what `q` is rounded to. -/
theorem le_round {f : ℚ} (hf : round f = f) (hpos : 0 < f) (h : f ≤ q) : f ≤ round q := by
  have hround := round_mono hpos h
  rwa [hf] at hround

theorem round_le {f : ℚ} (hf : round f = f) (hq : 0 < q) (h : q ≤ f) : round q ≤ f := by
  have hround := round_mono hq h
  rwa [hf] at hround

/-- Strictly between two powers of two a rounded number is a multiple of the spacing there. -/
theorem exists_round_eq {e : ℤ} (hq : 0 < q) (hlo : 2 ^ e < round q) (hhi : round q < 2 ^ (e + 1)) :
    ∃ m : ℤ, round q = m * 2 ^ (e - 52) := by
  have hlog : Int.log 2 q = e := by
    have h₁ : (2 : ℚ) ^ e < 2 ^ (Int.log 2 q + 1) := hlo.trans_le (round_le_zpow hq)
    have h₂ : (2 : ℚ) ^ Int.log 2 q < 2 ^ (e + 1) := (zpow_le_round hq).trans_lt hhi
    rw [zpow_lt_zpow_iff_right₀ one_lt_two] at h₁ h₂
    omega
  refine ⟨roundEven (q / ulp q), ?_⟩
  rw [round, ulp, abs_of_pos hq, hlog]

/-- Below a power of two a number is off by half the spacing there at most. -/
theorem round_le_add {e : ℤ} (hq : 0 < q) (hlt : q < 2 ^ (e + 1)) : round q ≤ q + 2 ^ (e - 53) := by
  have hulp : ulp q ≤ 2 ^ (e - 52) := by
    have hlog := (Int.lt_zpow_iff_log_lt one_lt_two hq).mp hlt
    rw [ulp, abs_of_pos hq]
    exact zpow_le_zpow_right₀ one_le_two (by omega)
  have hhalf : (2 : ℚ) ^ (e - 52) = 2 * 2 ^ (e - 53) := by
    rw [← zpow_one_add₀ two_ne_zero]
    congr 1
    ring
  linarith [(abs_le.mp (abs_round_sub_le q)).2]

end Binary64
