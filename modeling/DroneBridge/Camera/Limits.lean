import DroneBridge.Camera.Effective
import DroneBridge.Lib.Binary64

/-!
# Memory limits of a stream

A size with too many pixels is cut to one side of a cap: the longer side becomes that of the cap and
the other one follows from the ratio, cut to a whole number. Ratios near 4:3 give the cap itself,
and the band around 4:3 is the same for every cap, also for 1920x1080, whose own ratio is 16:9.

The pixels that are compared with the cap are multiplied in 64 bits. The product may wrap, and is
never more than the true one.
-/

namespace DroneBridge

/-! ## Pixels -/

/-- The pixels of a size, without wrapping. -/
def pixels : List Int64 → ℤ
  | w :: h :: _ => w.toInt * h.toInt
  | _ => 0

variable {F : CameraFloat} {w h maxW maxH : Int64} {rest : List Int64}

theorem toInt_mul_le (hnonneg : 0 ≤ w.toInt * h.toInt) : (w * h).toInt ≤ w.toInt * h.toInt := by
  rw [Int64.toInt_mul, Int.bmod_def]
  generalize w.toInt * h.toInt = n at hnonneg ⊢
  split <;> omega

theorem toInt_mul_of_lt (hnonneg : 0 ≤ w.toInt * h.toInt) (hlt : w.toInt * h.toInt < 2 ^ 63) :
    (w * h).toInt = w.toInt * h.toInt := by
  rw [Int64.toInt_mul]
  exact Int.bmod_eq_of_le (by omega) (by omega)

/-- A cap as the source has them: with so few pixels that they do not wrap. -/
structure IsCap (maxW maxH : Int64) : Prop where
  width : 1 ≤ maxW.toInt ∧ maxW.toInt < 2 ^ 31
  height : 1 ≤ maxH.toInt ∧ maxH.toInt < 2 ^ 31

theorem IsCap.toInt_mul (hcap : IsCap maxW maxH) :
    (maxW * maxH).toInt = maxW.toInt * maxH.toInt := by
  obtain ⟨⟨hw₁, hw₂⟩, hh₁, hh₂⟩ := hcap
  refine toInt_mul_of_lt (by positivity) ?_
  nlinarith

def memoryCaps : List (Int64 × Int64) := [(640, 480), (960, 720), (1920, 1080)]

theorem isCap_of_mem {cap : Int64 × Int64} (h : cap ∈ memoryCaps) : IsCap cap.1 cap.2 := by
  simp only [memoryCaps, List.mem_cons, List.not_mem_nil, or_false] at h
  rcases h with rfl | rfl | rfl <;> exact ⟨by decide, by decide⟩

/-! ## Cutting a size -/

def aspectRatio (F : CameraFloat) (w h : Int64) : ℚ := F.div (F.ofInt w.toInt) (F.ofInt h.toInt)

/-- A side that follows from the ratio. -/
def cutSide (q : ℚ) : Int64 := if Int64.ofRat q < 1 then 1 else Int64.ofRat q

theorem one_le_cutSide (q : ℚ) : 1 ≤ (cutSide q).toInt := by
  have hone : (1 : Int64).toInt = 1 := rfl
  rw [cutSide]
  split_ifs with h
  · exact hone.ge
  · rw [Int64.lt_iff_toInt_lt] at h
    omega

theorem toInt_cutSide {q : ℚ} (hq : 0 ≤ q) (hlt : q < 2 ^ 63) : (cutSide q).toInt = max 1 ⌊q⌋ := by
  have hfloor := Int64.toInt_ofRat_eq_floor hq hlt
  have hone : (1 : Int64).toInt = 1 := rfl
  rw [cutSide]
  split_ifs with h <;> rw [Int64.lt_iff_toInt_lt] at h <;> omega

theorem cutSide_le_iff {q : ℚ} {k : ℤ} (hq : 0 ≤ q) (hlt : q < 2 ^ 63) (hk : 1 ≤ k) :
    (cutSide q).toInt ≤ k ↔ q < k + 1 := by
  have hfloor : ⌊q⌋ < k + 1 ↔ q < ((k + 1 : ℤ) : ℚ) := Int.floor_lt
  rw [toInt_cutSide hq hlt]
  push_cast at hfloor
  rw [← hfloor]
  omega

theorem capSizeTo_cut (hcap : IsCap maxW maxH) (hcut : maxW * maxH < w * h) :
    capSizeTo F maxW maxH (w :: h :: rest) =
      if F.const (4 / 3 + 1 / 20) < aspectRatio F w h then
        [maxW, cutSide (F.div (F.ofInt maxW.toInt) (aspectRatio F w h))]
      else if aspectRatio F w h < F.const (4 / 3 - 1 / 20) then
        [cutSide (F.mul (F.ofInt maxH.toInt) (aspectRatio F w h)), maxH]
      else [maxW, maxH] := by
  have hmaxW : ¬ maxW < 1 := by
    rw [Int64.lt_iff_toInt_lt]
    exact not_lt.mpr hcap.width.1
  have hmaxH : ¬ maxH < 1 := by
    rw [Int64.lt_iff_toInt_lt]
    exact not_lt.mpr hcap.height.1
  rw [capSizeTo, if_neg (Int64.not_le.mpr hcut), ← aspectRatio]
  dsimp only
  by_cases hwide : F.const (4 / 3 + 1 / 20) < aspectRatio F w h
  · rw [if_pos hwide, if_pos hwide]
    dsimp only
    rw [if_neg hmaxW, cutSide]
  · rw [if_neg hwide, if_neg hwide]
    by_cases htall : aspectRatio F w h < F.const (4 / 3 - 1 / 20)
    · rw [if_pos htall, if_pos htall]
      dsimp only
      rw [if_neg hmaxH, cutSide]
    · rw [if_neg htall, if_neg htall]
      dsimp only
      rw [if_neg hmaxW, if_neg hmaxH]

theorem capSizeTo_of_le (hle : w * h ≤ maxW * maxH) :
    capSizeTo F maxW maxH (w :: h :: rest) = [w, h] := if_pos hle

/-- A size that is cut has two sides, each of one pixel at least. -/
theorem exists_capSizeTo_cut (hcap : IsCap maxW maxH) (hcut : maxW * maxH < w * h) :
    ∃ w' h' : Int64, capSizeTo F maxW maxH (w :: h :: rest) = [w', h'] ∧
      1 ≤ w'.toInt ∧ 1 ≤ h'.toInt := by
  rw [capSizeTo_cut hcap hcut]
  split_ifs
  · exact ⟨_, _, rfl, hcap.width.1, one_le_cutSide _⟩
  · exact ⟨_, _, rfl, one_le_cutSide _, hcap.height.1⟩
  · exact ⟨_, _, rfl, hcap.width.1, hcap.height.1⟩

theorem exists_capSizeTo (hcap : IsCap maxW maxH) (hw : 1 ≤ w.toInt) (hh : 1 ≤ h.toInt) :
    ∃ w' h' : Int64, capSizeTo F maxW maxH (w :: h :: rest) = [w', h'] ∧
      1 ≤ w'.toInt ∧ 1 ≤ h'.toInt := by
  by_cases hle : w * h ≤ maxW * maxH
  · exact ⟨w, h, capSizeTo_of_le hle, hw, hh⟩
  · exact exists_capSizeTo_cut hcap (Int64.not_le.mp hle)

/-- A size that is cut has more pixels than the cap, whether its product wraps or not. -/
theorem lt_pixels_of_cut (hcap : IsCap maxW maxH) (hnonneg : 0 ≤ w.toInt * h.toInt)
    (hcut : maxW * maxH < w * h) : maxW.toInt * maxH.toInt < w.toInt * h.toInt := by
  rw [Int64.lt_iff_toInt_lt, hcap.toInt_mul] at hcut
  exact hcut.trans_le (toInt_mul_le hnonneg)

/-! ## Exact ratios -/

section

variable (hcap : IsCap maxW maxH) (hw : 0 < w.toInt) (hh : 0 < h.toInt)

include hcap hw hh

theorem cutSide_wide_le_iff (hwide : 83 * h.toInt < 60 * w.toInt) :
    (cutSide (maxW.toInt / (w.toInt / h.toInt))).toInt ≤ maxH.toInt ↔
      maxW.toInt * h.toInt < (maxH.toInt + 1) * w.toInt := by
  obtain ⟨⟨hwcap, hwcap'⟩, hhcap, -⟩ := hcap
  have hw' : (0 : ℚ) < w.toInt := Int.cast_pos.mpr hw
  have hside : (maxW.toInt : ℚ) / (w.toInt / h.toInt) = (maxW.toInt * h.toInt : ℤ) / w.toInt := by
    rw [div_div_eq_mul_div]
    push_cast
    rfl
  have hlt : ((maxW.toInt * h.toInt : ℤ) : ℚ) / w.toInt < 2 ^ 63 := by
    rw [div_lt_iff₀ hw']
    have : maxW.toInt * h.toInt < 2 ^ 63 * w.toInt := by nlinarith
    exact_mod_cast this
  have hnonneg : (0 : ℚ) ≤ (maxW.toInt * h.toInt : ℤ) / w.toInt :=
    div_nonneg (Int.cast_nonneg (by positivity)) hw'.le
  rw [hside, cutSide_le_iff hnonneg hlt hhcap, div_lt_iff₀ hw']
  exact_mod_cast Iff.rfl

theorem cutSide_tall_le_iff (htall : 60 * w.toInt < 77 * h.toInt) :
    (cutSide (maxH.toInt * (w.toInt / h.toInt))).toInt ≤ maxW.toInt ↔
      maxH.toInt * w.toInt < (maxW.toInt + 1) * h.toInt := by
  obtain ⟨⟨hwcap, -⟩, hhcap, hhcap'⟩ := hcap
  have hh' : (0 : ℚ) < h.toInt := Int.cast_pos.mpr hh
  have hside : (maxH.toInt : ℚ) * (w.toInt / h.toInt) = (maxH.toInt * w.toInt : ℤ) / h.toInt := by
    rw [mul_div_assoc']
    push_cast
    rfl
  have hlt : ((maxH.toInt * w.toInt : ℤ) : ℚ) / h.toInt < 2 ^ 63 := by
    rw [div_lt_iff₀ hh']
    have : maxH.toInt * w.toInt < 2 ^ 63 * h.toInt := by nlinarith
    exact_mod_cast this
  have hnonneg : (0 : ℚ) ≤ (maxH.toInt * w.toInt : ℤ) / h.toInt :=
    div_nonneg (Int.cast_nonneg (by positivity)) hh'.le
  rw [hside, cutSide_le_iff hnonneg hlt hwcap, div_lt_iff₀ hh']
  exact_mod_cast Iff.rfl

/-- **What the cap lets through, in exact arithmetic.** A size that is cut is within the cap unless
its ratio is outside the band around 4:3 and the other side still is too long. A product that wraps
is not cut. -/
theorem pixels_capSizeTo_exact_le_iff :
    pixels (capSizeTo .exact maxW maxH (w :: h :: rest)) ≤ maxW.toInt * maxH.toInt ↔
      w.toInt * h.toInt ≤ maxW.toInt * maxH.toInt ∨
        maxW * maxH < w * h ∧
          (60 * w.toInt ≤ 83 * h.toInt ∨ maxW.toInt * h.toInt < (maxH.toInt + 1) * w.toInt) ∧
          (77 * h.toInt ≤ 60 * w.toInt ∨ maxH.toInt * w.toInt < (maxW.toInt + 1) * h.toInt) := by
  have hh' : (0 : ℚ) < h.toInt := Int.cast_pos.mpr hh
  by_cases hle : w * h ≤ maxW * maxH
  · rw [capSizeTo_of_le hle]
    exact (or_iff_left fun hcut ↦ Int64.not_le.mpr hcut.1 hle).symm
  · have hcut := Int64.not_le.mp hle
    have hbig := lt_pixels_of_cut hcap (by positivity) hcut
    have hwide : CameraFloat.exact.const (4 / 3 + 1 / 20) < aspectRatio .exact w h ↔
        83 * h.toInt < 60 * w.toInt := by
      change (4 / 3 + 1 / 20 : ℚ) < w.toInt / h.toInt ↔ _
      rw [lt_div_iff₀ hh', ← Int.cast_lt (R := ℚ)]
      push_cast
      constructor <;> intro _ <;> linarith
    have htall : aspectRatio .exact w h < CameraFloat.exact.const (4 / 3 - 1 / 20) ↔
        60 * w.toInt < 77 * h.toInt := by
      change (w.toInt / h.toInt : ℚ) < 4 / 3 - 1 / 20 ↔ _
      rw [div_lt_iff₀ hh', ← Int.cast_lt (R := ℚ)]
      push_cast
      constructor <;> intro _ <;> linarith
    have hmaxW : 0 < maxW.toInt := hcap.width.1
    have hmaxH : 0 < maxH.toInt := hcap.height.1
    rw [or_iff_right (not_le.mpr hbig), and_iff_right hcut, capSizeTo_cut hcap hcut]
    -- One side is that of the cap, and the other one decides.
    split_ifs with h₁ h₂
    · rw [hwide] at h₁
      rw [or_iff_right (by omega), and_iff_left (Or.inl (by omega)),
        ← cutSide_wide_le_iff hcap hw hh h₁]
      exact mul_le_mul_iff_of_pos_left hmaxW
    · rw [htall] at h₂
      rw [and_iff_right (Or.inl (by omega)), or_iff_right (by omega),
        ← cutSide_tall_le_iff hcap hw hh h₂]
      exact mul_le_mul_iff_of_pos_right hmaxH
    · rw [hwide] at h₁
      rw [htall] at h₂
      exact iff_of_true le_rfl ⟨Or.inl (by omega), Or.inl (by omega)⟩

end

/-- **When a capped size is within its cap, in exact arithmetic.** Every size whose 64-bit product
is above the cap, except for 1920x1080 those between 4:3 and 16:9. -/
theorem capSizeTo_within_iff {cap : Int64 × Int64} (hmem : cap ∈ memoryCaps) (hw : 0 < w)
    (hh : 0 < h) :
    (∃ w' h' : Int64, capSizeTo .exact cap.1 cap.2 (w :: h :: rest) = [w', h'] ∧ 1 ≤ w' ∧ 1 ≤ h' ∧
        w'.toInt * h'.toInt ≤ cap.1.toInt * cap.2.toInt) ↔
      w.toInt * h.toInt ≤ cap.1.toInt * cap.2.toInt ∨
        cap.1 * cap.2 < w * h ∧ (cap ≠ (1920, 1080) ∨ 60 * w.toInt ≤ 83 * h.toInt ∨
          1920 * h.toInt < 1081 * w.toInt) := by
  have hcap := isCap_of_mem hmem
  have hw' : 1 ≤ w.toInt := Int64.lt_iff_toInt_lt.mp hw
  have hh' : 1 ≤ h.toInt := Int64.lt_iff_toInt_lt.mp hh
  obtain ⟨w', h', hsize, hone, hone'⟩ : ∃ w' h' : Int64,
      capSizeTo CameraFloat.exact cap.1 cap.2 (w :: h :: rest) = [w', h'] ∧ 1 ≤ w'.toInt ∧
        1 ≤ h'.toInt := exists_capSizeTo hcap hw' hh'
  have hleft : (∃ w' h' : Int64, capSizeTo .exact cap.1 cap.2 (w :: h :: rest) = [w', h'] ∧
      1 ≤ w' ∧ 1 ≤ h' ∧ w'.toInt * h'.toInt ≤ cap.1.toInt * cap.2.toInt) ↔
      pixels (capSizeTo .exact cap.1 cap.2 (w :: h :: rest)) ≤ cap.1.toInt * cap.2.toInt := by
    constructor
    · rintro ⟨_, _, heq, -, -, hle⟩
      rwa [heq]
    · intro hle
      rw [hsize] at hle
      exact ⟨w', h', hsize, Int64.le_iff_toInt_le.mpr hone, Int64.le_iff_toInt_le.mpr hone', hle⟩
  rw [hleft, pixels_capSizeTo_exact_le_iff hcap hw' hh']
  refine or_congr_right (and_congr_right fun _ ↦ ?_)
  -- outside the band the other side of the two 4:3 caps is short enough
  simp only [memoryCaps, List.mem_cons, List.not_mem_nil, or_false] at hmem
  rcases hmem with rfl | rfl | rfl
  · refine iff_of_true ?_ (Or.inl (by decide))
    change (_ ∨ 640 * h.toInt < (480 + 1) * w.toInt) ∧ (_ ∨ 480 * w.toInt < (640 + 1) * h.toInt)
    omega
  · refine iff_of_true ?_ (Or.inl (by decide))
    change (_ ∨ 960 * h.toInt < (720 + 1) * w.toInt) ∧ (_ ∨ 720 * w.toInt < (960 + 1) * h.toInt)
    omega
  · rw [or_iff_right (not_not_intro rfl)]
    change (_ ∨ 1920 * h.toInt < (1080 + 1) * w.toInt) ∧
      (_ ∨ 1080 * w.toInt < (1920 + 1) * h.toInt) ↔ _
    omega

theorem capSizeTo_within_four_thirds :
    ∃ w' h' : Int64, capSizeTo .exact 1920 1080 [2560, 1920] = [w', h'] ∧ 1 ≤ w' ∧ 1 ≤ h' ∧
      w'.toInt * h'.toInt ≤ 1920 * 1080 := by
  have hcap : ((1920, 1080) : Int64 × Int64) ∈ memoryCaps := by decide
  have hw : (0 : Int64) < 2560 := by decide
  have hh : (0 : Int64) < 1920 := by decide
  exact (capSizeTo_within_iff hcap hw hh).mpr (Or.inr (by decide))

/-- The ratio 3:2 is wider than the band around 4:3, so the width becomes 1920, which it was. -/
theorem capSizeTo_three_halves :
    capSizeTo .exact 1920 1080 [1920, 1280] = [1920, 1280] ∧
      1920 * 1080 < pixels [1920, 1280] := by
  decide +kernel

/-! ## Ratios in 64-bit floats -/

/-- Every result is rounded to a float. How a product and a sum are rounded together is left open,
since no size is cut with them. -/
structure CameraFloat.IsBinary64 (F : CameraFloat) : Prop where
  ofInt (n : ℤ) : F.ofInt n = Binary64.round n
  div (a b : ℚ) : F.div a b = Binary64.round (a / b)
  mul (a b : ℚ) : F.mul a b = Binary64.round (a * b)
  const (q : ℚ) : F.const q = Binary64.round q

/-- With a product and a sum rounded once, as the processor of the board does it. -/
def CameraFloat.binary64 : CameraFloat where
  ofInt n := Binary64.round n
  div a b := Binary64.round (a / b)
  mulAdd a b c := Binary64.round (a * b + c)
  mul a b := Binary64.round (a * b)
  const := Binary64.round

theorem CameraFloat.isBinary64_binary64 : CameraFloat.binary64.IsBinary64 where
  ofInt _ := rfl
  div _ _ := rfl
  mul _ _ := rfl
  const _ := rfl

section

variable (hF : F.IsBinary64)

include hF

namespace CameraFloat.IsBinary64

variable {x : ℚ}

theorem ofInt_side {n : ℤ} (hn : 1 ≤ n ∧ n < 2 ^ 31) : F.ofInt n = n := by
  obtain ⟨k, rfl⟩ := Int.eq_ofNat_of_zero_le (zero_le_one.trans hn.1)
  rw [hF.ofInt, Int.cast_natCast]
  exact Binary64.round_natCast (by omega) (by omega)

theorem wide_bounds : 11 / 8 ≤ F.const (4 / 3 + 1 / 20) ∧ F.const (4 / 3 + 1 / 20) ≤ 3 / 2 := by
  have hlow : Binary64.round (11 / 8) = 11 / 8 := by
    have h := Binary64.round_div_two_pow (m := 11) (by decide) (by decide) 3
    norm_num at h
    exact h
  have hhigh : Binary64.round (3 / 2) = 3 / 2 := by
    have h := Binary64.round_div_two_pow (m := 3) (by decide) (by decide) 1
    norm_num at h
    exact h
  rw [hF.const]
  constructor
  · exact Binary64.le_round hlow (by norm_num) (by norm_num)
  · exact Binary64.round_le hhigh (by norm_num) (by norm_num)

theorem tall_bounds : 1 ≤ F.const (4 / 3 - 1 / 20) ∧ F.const (4 / 3 - 1 / 20) ≤ 21 / 16 := by
  have hlow : Binary64.round 1 = 1 := by
    have h := Binary64.round_natCast (n := 1) (by decide) (by decide)
    rwa [Nat.cast_one] at h
  have hhigh : Binary64.round (21 / 16) = 21 / 16 := by
    have h := Binary64.round_div_two_pow (m := 21) (by decide) (by decide) 4
    norm_num at h
    exact h
  rw [hF.const]
  constructor
  · exact Binary64.le_round hlow (by norm_num) (by norm_num)
  · exact Binary64.round_le hhigh (by norm_num) (by norm_num)

/-- The ratio of a size is the rounded ratio of its rounded sides. -/
theorem exists_aspectRatio (hpos : 0 < w.toInt * h.toInt) :
    ∃ q, 0 < q ∧ aspectRatio F w h = Binary64.round q := by
  refine ⟨Binary64.round w.toInt / Binary64.round h.toInt, ?_, ?_⟩
  · rcases mul_pos_iff.mp hpos with ⟨hw, hh⟩ | ⟨hw, hh⟩
    · exact div_pos (Binary64.round_pos (Int.cast_pos.mpr hw))
        (Binary64.round_pos (Int.cast_pos.mpr hh))
    · exact div_pos_of_neg_of_neg (Binary64.round_neg_of_neg (Int.cast_lt_zero.mpr hw))
        (Binary64.round_neg_of_neg (Int.cast_lt_zero.mpr hh))
  · rw [aspectRatio, hF.div, hF.ofInt, hF.ofInt]

theorem toInt_cutSide_wide (hmaxW : 1 ≤ maxW.toInt ∧ maxW.toInt < 2 ^ 31)
    (hwide : F.const (4 / 3 + 1 / 20) < x) :
    (cutSide (F.div (F.ofInt maxW.toInt) x)).toInt =
      max 1 ⌊Binary64.round (maxW.toInt / x)⌋ := by
  have hx : 11 / 8 < x := hF.wide_bounds.1.trans_lt hwide
  have hn : (0 : ℚ) < maxW.toInt := Int.cast_pos.mpr hmaxW.1
  have hpos : (0 : ℚ) < maxW.toInt / x := div_pos hn (by linarith)
  have hle : (maxW.toInt / x : ℚ) ≤ maxW.toInt := div_le_self hn.le (by linarith)
  have hround := Binary64.round_mono hpos hle
  rw [← hF.ofInt, hF.ofInt_side hmaxW] at hround
  have hlt : (maxW.toInt : ℚ) < 2 ^ 31 := by exact_mod_cast hmaxW.2
  rw [hF.ofInt_side hmaxW, hF.div]
  exact toInt_cutSide (Binary64.round_pos hpos).le (by linarith)

theorem toInt_cutSide_tall (hmaxH : 1 ≤ maxH.toInt ∧ maxH.toInt < 2 ^ 31) (hx : 0 < x)
    (htall : x < F.const (4 / 3 - 1 / 20)) :
    (cutSide (F.mul (F.ofInt maxH.toInt) x)).toInt =
      max 1 ⌊Binary64.round (maxH.toInt * x)⌋ := by
  have hx' : x < 21 / 16 := htall.trans_le hF.tall_bounds.2
  have hn : (0 : ℚ) < maxH.toInt := Int.cast_pos.mpr hmaxH.1
  have hpos : (0 : ℚ) < maxH.toInt * x := mul_pos hn hx
  have hlt : (maxH.toInt : ℚ) < 2 ^ 31 := by exact_mod_cast hmaxH.2
  have hfloat : Binary64.round (2 ^ 32) = 2 ^ 32 := by
    have h := Binary64.round_natCast (n := 2 ^ 32) (by decide) (by decide)
    rwa [Nat.cast_pow, Nat.cast_ofNat] at h
  have hround := Binary64.round_le hfloat hpos (by nlinarith)
  rw [hF.ofInt_side hmaxH, hF.mul]
  exact toInt_cutSide (Binary64.round_pos hpos).le (by linarith)

theorem round_side {n : ℤ} (hn : 1 ≤ n ∧ n < 2 ^ 31) : Binary64.round n = n := by
  rw [← hF.ofInt, hF.ofInt_side hn]

/-- **A size cut to a cap of about 4:3 is within it.** -/
theorem pixels_capSizeTo_le (hcap : IsCap maxW maxH) (hlow : 8 * maxW.toInt ≤ 11 * maxH.toInt)
    (hhigh : 21 * maxH.toInt ≤ 16 * maxW.toInt) (hpos : 0 < w.toInt * h.toInt)
    (hcut : maxW * maxH < w * h) :
    pixels (capSizeTo F maxW maxH (w :: h :: rest)) ≤ maxW.toInt * maxH.toInt := by
  obtain ⟨q, hq, hratio⟩ := hF.exists_aspectRatio hpos
  have hx : 0 < aspectRatio F w h := hratio ▸ Binary64.round_pos hq
  have hmaxW : (0 : ℚ) < maxW.toInt := Int.cast_pos.mpr hcap.width.1
  have hmaxH : (0 : ℚ) < maxH.toInt := Int.cast_pos.mpr hcap.height.1
  have hlow' : (8 * maxW.toInt : ℚ) ≤ 11 * maxH.toInt := by exact_mod_cast hlow
  have hhigh' : (21 * maxH.toInt : ℚ) ≤ 16 * maxW.toInt := by exact_mod_cast hhigh
  rw [capSizeTo_cut hcap hcut]
  -- Outside the band the ratio is far enough from that of the cap to absorb the rounding.
  split_ifs with hwide htall
  · have hx' := hF.wide_bounds.1.trans_lt hwide
    have hle : (maxW.toInt / aspectRatio F w h : ℚ) ≤ maxH.toInt := by
      rw [div_le_iff₀ hx]
      nlinarith
    have hround := Binary64.round_le (hF.round_side hcap.height) (div_pos hmaxW hx) hle
    refine mul_le_mul_of_nonneg_left ?_ (zero_le_one.trans hcap.width.1)
    rw [hF.toInt_cutSide_wide hcap.width hwide]
    exact max_le hcap.height.1 (Int.floor_le_iff.mpr (hround.trans_lt (lt_add_one _)))
  · have hx' := htall.trans_le hF.tall_bounds.2
    have hle : (maxH.toInt * aspectRatio F w h : ℚ) ≤ maxW.toInt := by nlinarith
    have hround := Binary64.round_le (hF.round_side hcap.width) (mul_pos hmaxH hx) hle
    refine mul_le_mul_of_nonneg_right ?_ (zero_le_one.trans hcap.height.1)
    rw [hF.toInt_cutSide_tall hcap.height hx htall]
    exact max_le hcap.width.1 (Int.floor_le_iff.mpr (hround.trans_lt (lt_add_one _)))
  · exact le_rfl

/-- **A larger cap leaves more pixels.** -/
theorem pixels_capSizeTo_mono {maxW' maxH' : Int64} (hcap : IsCap maxW maxH)
    (hcap' : IsCap maxW' maxH') (hW : maxW.toInt ≤ maxW'.toInt) (hH : maxH.toInt ≤ maxH'.toInt)
    (hpos : 0 < w.toInt * h.toInt) (hcut : maxW * maxH < w * h) (hcut' : maxW' * maxH' < w * h) :
    pixels (capSizeTo F maxW maxH (w :: h :: rest)) ≤
      pixels (capSizeTo F maxW' maxH' (w :: h :: rest)) := by
  obtain ⟨q, hq, hratio⟩ := hF.exists_aspectRatio hpos
  have hx : 0 < aspectRatio F w h := hratio ▸ Binary64.round_pos hq
  have hmaxW : (0 : ℚ) < maxW.toInt := Int.cast_pos.mpr hcap.width.1
  have hmaxH : (0 : ℚ) < maxH.toInt := Int.cast_pos.mpr hcap.height.1
  rw [capSizeTo_cut hcap hcut, capSizeTo_cut hcap' hcut']
  split_ifs with hwide htall
  · have hround := Binary64.round_mono (div_pos hmaxW hx)
      (div_le_div_of_nonneg_right (Int.cast_le.mpr hW) hx.le)
    refine mul_le_mul hW ?_ (zero_le_one.trans (one_le_cutSide _))
      (zero_le_one.trans hcap'.width.1)
    rw [hF.toInt_cutSide_wide hcap.width hwide, hF.toInt_cutSide_wide hcap'.width hwide]
    exact max_le_max_left 1 (Int.floor_le_floor hround)
  · have hround := Binary64.round_mono (mul_pos hmaxH hx)
      (mul_le_mul_of_nonneg_right (Int.cast_le.mpr hH) hx.le)
    refine mul_le_mul ?_ hH (zero_le_one.trans hcap.height.1)
      (zero_le_one.trans (one_le_cutSide _))
    rw [hF.toInt_cutSide_tall hcap.height hx htall, hF.toInt_cutSide_tall hcap'.height hx htall]
    exact max_le_max_left 1 (Int.floor_le_floor hround)
  · exact mul_le_mul hW hH (zero_le_one.trans hcap.height.1) (zero_le_one.trans hcap'.width.1)

/-- A size of about 4:3, not so large that its sides are rounded, becomes the cap. -/
theorem capSizeTo_four_thirds (hcap : IsCap maxW maxH) (hcut : maxW * maxH < w * h)
    (hw : 1 ≤ w.toInt) (hh : 1 ≤ h.toInt) (hle : w.toInt * h.toInt < 2 ^ 31)
    (hlow : 77 * h.toInt ≤ 60 * w.toInt) (hhigh : 60 * w.toInt ≤ 83 * h.toInt) :
    capSizeTo F maxW maxH (w :: h :: rest) = [maxW, maxH] := by
  have hh' : (0 : ℚ) < h.toInt := Int.cast_pos.mpr hh
  have hratio : aspectRatio F w h = Binary64.round (w.toInt / h.toInt) := by
    rw [aspectRatio, hF.ofInt_side ⟨hw, by nlinarith⟩, hF.ofInt_side ⟨hh, by nlinarith⟩, hF.div]
  have hnotWide : aspectRatio F w h ≤ F.const (4 / 3 + 1 / 20) := by
    rw [hratio, hF.const]
    refine Binary64.round_mono (div_pos (Int.cast_pos.mpr hw) hh') ?_
    rw [div_le_iff₀ hh']
    have : (60 * w.toInt : ℚ) ≤ 83 * h.toInt := by exact_mod_cast hhigh
    linarith
  have hnotTall : F.const (4 / 3 - 1 / 20) ≤ aspectRatio F w h := by
    rw [hratio, hF.const]
    refine Binary64.round_mono (by norm_num) ?_
    rw [le_div_iff₀ hh']
    have : (77 * h.toInt : ℚ) ≤ 60 * w.toInt := by exact_mod_cast hlow
    linarith
  rw [capSizeTo_cut hcap hcut, if_neg (not_lt.mpr hnotWide), if_neg (not_lt.mpr hnotTall)]

end CameraFloat.IsBinary64

end

/-! ### Thresholds

A side of 960x720 is as short as the pixels of 640x480 want it only for a ratio beyond a threshold.
No float lies so close to the threshold that the rounded side is a whole number again. -/

/-- Below a whole number up to 512 rounding makes no difference, if what is rounded keeps away from
it by as much as it can be moved. -/
theorem round_lt_natCast_iff {x : ℚ} {n : ℕ} (hx : 0 < x) (hn : 0 < n) (hle : n ≤ 512)
    (hnear : x < n → x + 2 ^ (8 - 53 : ℤ) < n) : Binary64.round x < n ↔ x < n := by
  have hfloat : Binary64.round (n : ℚ) = n := Binary64.round_natCast hn (by omega)
  constructor
  · intro hlt
    by_contra hnot
    have hround := Binary64.le_round hfloat (Nat.cast_pos.mpr hn) (not_lt.mp hnot)
    exact absurd hlt (not_lt.mpr hround)
  · intro hlt
    have hbound : x < 2 ^ (8 + 1 : ℤ) := by
      have hcast : (n : ℚ) ≤ 512 := by exact_mod_cast hle
      norm_num
      linarith
    exact (Binary64.round_le_add hx hbound).trans_lt (hnear hlt)

/-- The first float above the threshold, in units of the spacing between 2 and 4. -/
theorem le_round_of_threshold_lt {q : ℚ} (hq : 0 < q) (hlt : 320 / 107 < Binary64.round q) :
    6734354582983920 / 2 ^ 51 ≤ Binary64.round q := by
  by_cases hfour : Binary64.round q < 4
  · obtain ⟨m, hm⟩ := Binary64.exists_round_eq (e := 1) hq (by norm_num; linarith)
      (by norm_num; linarith)
    norm_num at hm
    have hm' : (320 * 2251799813685248 : ℤ) < 107 * m := by
      have : (320 * 2251799813685248 : ℚ) < 107 * m := by linarith
      exact_mod_cast this
    have hle : (6734354582983920 : ℚ) ≤ m := by
      have : (6734354582983920 : ℤ) ≤ m := by omega
      exact_mod_cast this
    norm_num
    linarith
  · norm_num
    linarith

/-- The last float below the threshold, in units of the spacing between 1/2 and 1. -/
theorem round_le_of_lt_threshold {q : ℚ} (hq : 0 < q) (hlt : Binary64.round q < 427 / 720) :
    Binary64.round q ≤ 5341769558020004 / 2 ^ 53 := by
  by_cases hhalf : 1 / 2 < Binary64.round q
  · obtain ⟨m, hm⟩ := Binary64.exists_round_eq (e := -1) hq (by norm_num; linarith)
      (by norm_num; linarith)
    norm_num at hm
    have hm' : (720 * m : ℤ) < 427 * 9007199254740992 := by
      have : (720 * m : ℚ) < 427 * 9007199254740992 := by linarith
      exact_mod_cast this
    have hle : (m : ℚ) ≤ 5341769558020004 := by
      have : (m : ℤ) ≤ 5341769558020004 := by omega
      exact_mod_cast this
    norm_num
    linarith
  · norm_num
    linarith

theorem round_div_lt_iff {q : ℚ} (hq : 0 < q) :
    Binary64.round (960 / Binary64.round q) < 321 ↔ 320 / 107 < Binary64.round q := by
  have hpos := Binary64.round_pos hq
  have hside : 0 < 960 / Binary64.round q := div_pos (by norm_num) hpos
  have hiff : 960 / Binary64.round q < 321 ↔ 320 / 107 < Binary64.round q := by
    rw [div_lt_iff₀ hpos]
    constructor <;> intro h <;> linarith
  refine Iff.trans (round_lt_natCast_iff (n := 321) hside (by decide) (by decide) fun hlt ↦ ?_) hiff
  have hgrid := le_round_of_threshold_lt hq (hiff.mp hlt)
  rw [← lt_sub_iff_add_lt, div_lt_iff₀ hpos]
  norm_num at hgrid ⊢
  linarith

theorem round_mul_lt_iff {q : ℚ} (hq : 0 < q) :
    Binary64.round (720 * Binary64.round q) < 427 ↔ Binary64.round q < 427 / 720 := by
  have hpos := Binary64.round_pos hq
  have hside : 0 < 720 * Binary64.round q := mul_pos (by norm_num) hpos
  have hiff : 720 * Binary64.round q < 427 ↔ Binary64.round q < 427 / 720 := by
    constructor <;> intro h <;> linarith
  refine Iff.trans (round_lt_natCast_iff (n := 427) hside (by decide) (by decide) fun hlt ↦ ?_) hiff
  have hgrid := round_le_of_lt_threshold hq (hiff.mp hlt)
  norm_num at hgrid ⊢
  linarith

namespace CameraFloat.IsBinary64

/-- **When a size cut to 960x720 has no more pixels than 640x480.** -/
theorem pixels_capSizeTo_960_le_iff (hF : F.IsBinary64) (hpos : 0 < w.toInt * h.toInt)
    (hcut : (960 * 720 : Int64) < w * h) :
    pixels (capSizeTo F 960 720 (w :: h :: rest)) ≤ 640 * 480 ↔
      320 / 107 < aspectRatio F w h ∨ aspectRatio F w h < 427 / 720 := by
  obtain ⟨q, hq, hratio⟩ := hF.exists_aspectRatio hpos
  have hx : 0 < aspectRatio F w h := hratio ▸ Binary64.round_pos hq
  have hcap : IsCap 960 720 := ⟨by decide, by decide⟩
  rw [capSizeTo_cut hcap hcut]
  split_ifs with hwide htall
  · have hx' := hF.wide_bounds.1.trans_lt hwide
    have hside := hF.toInt_cutSide_wide hcap.width hwide
    change _ = max 1 ⌊Binary64.round (960 / aspectRatio F w h)⌋ at hside
    have hfloor : ⌊Binary64.round (960 / aspectRatio F w h)⌋ < 321 ↔ _ := Int.floor_lt
    rw [Int.cast_ofNat, hratio, round_div_lt_iff hq, ← hratio] at hfloor
    rw [or_iff_left (by linarith), ← hfloor]
    change 960 * _ ≤ _ ↔ _
    omega
  · have hx' := htall.trans_le hF.tall_bounds.2
    have hside := hF.toInt_cutSide_tall hcap.height hx htall
    change _ = max 1 ⌊Binary64.round (720 * aspectRatio F w h)⌋ at hside
    have hfloor : ⌊Binary64.round (720 * aspectRatio F w h)⌋ < 427 ↔ _ := Int.floor_lt
    rw [Int.cast_ofNat, hratio, round_mul_lt_iff hq, ← hratio] at hfloor
    rw [or_iff_right (by linarith), ← hfloor]
    change _ * 720 ≤ _ ↔ _
    omega
  · have hlow := hF.tall_bounds.1.trans (not_lt.mp htall)
    have hhigh := (not_lt.mp hwide).trans hF.wide_bounds.2
    refine iff_of_false (by decide) ?_
    rintro (h | h) <;> linarith

end CameraFloat.IsBinary64

/-! ### Cutting twice

A size that is cut to a larger cap keeps its shape: the ratio of what is left is outside the band
around 4:3 on the same side, so that cutting it again changes the same side. -/

/-- The height that follows from a width. -/
def cutRows (F : CameraFloat) (width : Int64) (ratio : ℚ) : Int64 :=
  cutSide (F.div (F.ofInt width.toInt) ratio)

/-- The width that follows from a height. -/
def cutColumns (F : CameraFloat) (height : Int64) (ratio : ℚ) : Int64 :=
  cutSide (F.mul (F.ofInt height.toInt) ratio)

/-- The pixels of a wide size that is cut to a width, and again if more than 640x480 are left. -/
def wideTwice (F : CameraFloat) (width : Int64) (ratio : ℚ) : ℤ :=
  let rows := cutRows F width ratio
  if width.toInt * rows.toInt ≤ 640 * 480 then width.toInt * rows.toInt
  else 640 * (cutRows F 640 (aspectRatio F width rows)).toInt

/-- The same for a tall size and a height. -/
def tallTwice (F : CameraFloat) (height : Int64) (ratio : ℚ) : ℤ :=
  let columns := cutColumns F height ratio
  if columns.toInt * height.toInt ≤ 640 * 480 then columns.toInt * height.toInt
  else (cutColumns F 480 (aspectRatio F columns height)).toInt * 480

theorem mul_le_640_480_iff (hw : 1 ≤ w.toInt ∧ w.toInt < 2 ^ 31)
    (hh : 1 ≤ h.toInt ∧ h.toInt < 2 ^ 31) :
    w * h ≤ 640 * 480 ↔ w.toInt * h.toInt ≤ 640 * 480 := by
  have hsmall : IsCap w h := ⟨hw, hh⟩
  rw [Int64.le_iff_toInt_le, hsmall.toInt_mul]
  rfl

namespace CameraFloat.IsBinary64

variable (hF : F.IsBinary64)

include hF

theorem aspectRatio_of_side (hw : 1 ≤ w.toInt ∧ w.toInt < 2 ^ 31)
    (hh : 1 ≤ h.toInt ∧ h.toInt < 2 ^ 31) :
    aspectRatio F w h = Binary64.round (w.toInt / h.toInt) := by
  rw [aspectRatio, hF.ofInt_side hw, hF.ofInt_side hh, hF.div]

theorem wide_sharp :
    2833 / 2048 ≤ F.const (4 / 3 + 1 / 20) ∧ F.const (4 / 3 + 1 / 20) ≤ 5667 / 4096 := by
  have hlow : Binary64.round (2833 / 2048) = 2833 / 2048 := by
    have h := Binary64.round_div_two_pow (m := 2833) (by decide) (by decide) 11
    norm_num at h
    exact h
  have hhigh : Binary64.round (5667 / 4096) = 5667 / 4096 := by
    have h := Binary64.round_div_two_pow (m := 5667) (by decide) (by decide) 12
    norm_num at h
    exact h
  rw [hF.const]
  constructor
  · exact Binary64.le_round hlow (by norm_num) (by norm_num)
  · exact Binary64.round_le hhigh (by norm_num) (by norm_num)

/-- What is left of a wide size is wide. -/
theorem wide_again {x : ℚ} (hwide : F.const (4 / 3 + 1 / 20) < x) {N : ℤ}
    (hmaxW : 1 ≤ maxW.toInt ∧ maxW.toInt ≤ 1920) (hN : 1 ≤ N)
    (hbelow : 2048 * 256 * maxW.toInt + 2833 ≤ 2833 * 256 * (N + 1))
    (habove : 1417 * N ≤ 1024 * maxW.toInt) :
    (cutRows F maxW x).toInt ≤ N ∧
      F.const (4 / 3 + 1 / 20) < aspectRatio F maxW (cutRows F maxW x) := by
  have hside : 1 ≤ maxW.toInt ∧ maxW.toInt < 2 ^ 31 := ⟨hmaxW.1, by omega⟩
  have hx : 2833 / 2048 < x := hF.wide_sharp.1.trans_lt hwide
  have hmaxW₁ : (1 : ℚ) ≤ maxW.toInt := by exact_mod_cast hmaxW.1
  have hmaxW₂ : (maxW.toInt : ℚ) ≤ 1920 := by exact_mod_cast hmaxW.2
  have hbelow' : (2048 * 256 * maxW.toInt + 2833 : ℚ) ≤ 2833 * 256 * (N + 1) := by
    exact_mod_cast hbelow
  have hy : (maxW.toInt / x : ℚ) ≤ 2048 / 2833 * maxW.toInt := by
    rw [div_le_iff₀ (by linarith)]
    nlinarith
  -- The quotient is below 2 ^ 11, so rounding adds at most 2 ^ (-43).
  have hround := Binary64.round_le_add (q := maxW.toInt / x) (e := 10)
    (div_pos (by linarith) (by linarith)) (by norm_num; linarith)
  have hrows : (cutRows F maxW x).toInt ≤ N := by
    rw [cutRows, hF.toInt_cutSide_wide hside hwide]
    refine max_le hN (Int.lt_add_one_iff.mp (Int.floor_lt.mpr ?_))
    push_cast
    norm_num at hround
    linarith
  refine ⟨hrows, ?_⟩
  have hone : 1 ≤ (cutRows F maxW x).toInt := one_le_cutSide _
  have hone' : (1 : ℚ) ≤ (cutRows F maxW x).toInt := by exact_mod_cast hone
  have hrows' : ((cutRows F maxW x).toInt : ℚ) ≤ N := by exact_mod_cast hrows
  have habove' : (1417 * N : ℚ) ≤ 1024 * maxW.toInt := by exact_mod_cast habove
  -- A float between the bound and the new ratio.
  have hfloat : Binary64.round (1417 / 1024) = 1417 / 1024 := by
    have h := Binary64.round_div_two_pow (m := 1417) (by decide) (by decide) 10
    norm_num at h
    exact h
  rw [hF.aspectRatio_of_side hside ⟨hone, by omega⟩]
  refine hF.wide_sharp.2.trans_lt (lt_of_lt_of_le (by norm_num) (Binary64.le_round hfloat
    (by norm_num) ?_))
  rw [le_div_iff₀ (by linarith)]
  linarith

/-- The last float below the bound for tall sizes, in units of the spacing between 1 and 2. -/
theorem round_le_of_tall {q : ℚ} (hq : 0 < q)
    (htall : Binary64.round q < F.const (4 / 3 - 1 / 20)) :
    Binary64.round q ≤ 5779619521792136 / 2 ^ 52 := by
  have hfloat : Binary64.round (5779619521792137 / 2 ^ 52) = 5779619521792137 / 2 ^ 52 := by
    have h := Binary64.round_div_two_pow (m := 5779619521792137) (by decide) (by decide) 52
    exact_mod_cast h
  have hlt : Binary64.round q < 5779619521792137 / 2 ^ 52 := by
    refine htall.trans_le ?_
    rw [hF.const]
    exact Binary64.round_le hfloat (by norm_num) (by norm_num)
  by_cases hone : 1 < Binary64.round q
  · obtain ⟨m, hm⟩ := Binary64.exists_round_eq (e := 0) hq (by simpa using hone)
      (by norm_num at hlt ⊢; linarith)
    norm_num at hm hlt
    have hm' : (m : ℚ) < 5779619521792137 := by linarith
    have hle : (m : ℚ) ≤ 5779619521792136 := by
      have : m < 5779619521792137 := by exact_mod_cast hm'
      exact_mod_cast Int.lt_add_one_iff.mp this
    norm_num
    linarith
  · norm_num
    linarith

/-- What is left of a tall size is tall. -/
theorem tall_again {q : ℚ} {N e : ℤ} (hq : 0 < q)
    (htall : Binary64.round q < F.const (4 / 3 - 1 / 20))
    (hmaxH : 1 ≤ maxH.toInt ∧ maxH.toInt ≤ 1080) (hN : 1 ≤ N)
    (hpower : (maxH.toInt * (5779619521792136 / 2 ^ 52) : ℚ) < 2 ^ (e + 1))
    (hbelow : (maxH.toInt * (5779619521792136 / 2 ^ 52) + 2 ^ (e - 53) : ℚ) < N + 1)
    (habove : 2048 * N ≤ 2627 * maxH.toInt) :
    (cutColumns F maxH (Binary64.round q)).toInt ≤ N ∧
      aspectRatio F (cutColumns F maxH (Binary64.round q)) maxH < F.const (4 / 3 - 1 / 20) := by
  have hside : 1 ≤ maxH.toInt ∧ maxH.toInt < 2 ^ 31 := ⟨hmaxH.1, by omega⟩
  have hpos := Binary64.round_pos hq
  -- The bound lies between two floats; a ratio below it is at most the lower one.
  have hgrid := hF.round_le_of_tall hq htall
  have hmaxH₁ : (1 : ℚ) ≤ maxH.toInt := by exact_mod_cast hmaxH.1
  have hy : (maxH.toInt * Binary64.round q : ℚ) ≤ maxH.toInt * (5779619521792136 / 2 ^ 52) :=
    mul_le_mul_of_nonneg_left hgrid (by linarith)
  have hround := Binary64.round_le_add (mul_pos (by linarith) hpos) (hy.trans_lt hpower)
  have hcolumns : (cutColumns F maxH (Binary64.round q)).toInt ≤ N := by
    rw [cutColumns, hF.toInt_cutSide_tall hside hpos htall]
    refine max_le hN (Int.lt_add_one_iff.mp (Int.floor_lt.mpr ?_))
    push_cast
    linarith
  refine ⟨hcolumns, ?_⟩
  have hone : 1 ≤ (cutColumns F maxH (Binary64.round q)).toInt := one_le_cutSide _
  have hone' : (1 : ℚ) ≤ (cutColumns F maxH (Binary64.round q)).toInt := by exact_mod_cast hone
  have hcolumns' : ((cutColumns F maxH (Binary64.round q)).toInt : ℚ) ≤ N := by
    exact_mod_cast hcolumns
  have habove' : (2048 * N : ℚ) ≤ 2627 * maxH.toInt := by exact_mod_cast habove
  have hfloat : Binary64.round (2627 / 2048) = 2627 / 2048 := by
    have h := Binary64.round_div_two_pow (m := 2627) (by decide) (by decide) 11
    norm_num at h
    exact h
  have hlow : Binary64.round (1314 / 1024) = 1314 / 1024 := by
    have h := Binary64.round_div_two_pow (m := 1314) (by decide) (by decide) 10
    norm_num at h ⊢
    exact h
  rw [hF.aspectRatio_of_side ⟨hone, by omega⟩ hside, hF.const]
  refine lt_of_le_of_lt (Binary64.round_le hfloat (div_pos (by linarith) (by linarith)) ?_)
    (lt_of_lt_of_le (by norm_num) (Binary64.le_round hlow (by norm_num) (by norm_num)))
  rw [div_le_iff₀ (by linarith)]
  linarith

theorem pixels_cut_wide {k l : Int64} {N : ℤ} (hcap : IsCap k l) (hk : k.toInt ≤ 1920)
    (hcut : k * l < w * h) (hwide : F.const (4 / 3 + 1 / 20) < aspectRatio F w h) (hN : 1 ≤ N)
    (hbelow : 2048 * 256 * k.toInt + 2833 ≤ 2833 * 256 * (N + 1))
    (habove : 1417 * N ≤ 1024 * k.toInt) :
    pixels (capSizeTo F 640 480 (capSizeTo F k l (w :: h :: rest))) =
      wideTwice F k (aspectRatio F w h) := by
  obtain ⟨hrows, hagain⟩ := hF.wide_again hwide ⟨hcap.width.1, hk⟩ hN hbelow habove
  have hiff := mul_le_640_480_iff (w := k) (h := cutRows F k (aspectRatio F w h)) hcap.width
    ⟨one_le_cutSide _, by omega⟩
  rw [capSizeTo_cut hcap hcut, if_pos hwide, wideTwice, ← cutRows]
  split_ifs with hle
  · rw [capSizeTo_of_le (hiff.mpr hle)]
    rfl
  · rw [capSizeTo_cut ⟨by decide, by decide⟩ (Int64.not_le.mp (mt hiff.mp hle)), if_pos hagain]
    rfl

theorem pixels_cut_tall {k l : Int64} {N e : ℤ} (hcap : IsCap k l) (hl : l.toInt ≤ 1080)
    (hpos : 0 < w.toInt * h.toInt) (hcut : k * l < w * h)
    (htall : aspectRatio F w h < F.const (4 / 3 - 1 / 20)) (hN : 1 ≤ N)
    (hpower : (l.toInt * (5779619521792136 / 2 ^ 52) : ℚ) < 2 ^ (e + 1))
    (hbelow : (l.toInt * (5779619521792136 / 2 ^ 52) + 2 ^ (e - 53) : ℚ) < N + 1)
    (habove : 2048 * N ≤ 2627 * l.toInt) :
    pixels (capSizeTo F 640 480 (capSizeTo F k l (w :: h :: rest))) =
      tallTwice F l (aspectRatio F w h) := by
  obtain ⟨q, hq, hratio⟩ := hF.exists_aspectRatio hpos
  have hnotWide : ∀ {x : ℚ}, x < F.const (4 / 3 - 1 / 20) → ¬ F.const (4 / 3 + 1 / 20) < x :=
    fun hx hwide ↦ by linarith [hF.wide_bounds.1, hF.tall_bounds.2]
  rw [hratio] at htall ⊢
  obtain ⟨hcolumns, hagain⟩ := hF.tall_again hq htall ⟨hcap.height.1, hl⟩ hN hpower hbelow habove
  have hiff := mul_le_640_480_iff (w := cutColumns F l (Binary64.round q)) (h := l)
    ⟨one_le_cutSide _, by omega⟩ hcap.height
  rw [capSizeTo_cut hcap hcut, hratio, if_neg (hnotWide htall), if_pos htall, tallTwice,
    ← cutColumns]
  split_ifs with hle
  · rw [capSizeTo_of_le (hiff.mpr hle)]
    rfl
  · rw [capSizeTo_cut ⟨by decide, by decide⟩ (Int64.not_le.mp (mt hiff.mp hle)),
      if_neg (hnotWide hagain), if_pos hagain]
    rfl

end CameraFloat.IsBinary64

end DroneBridge
