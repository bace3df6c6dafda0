import DroneBridge.Landing.Tracker
import DroneBridge.Lib.Hull
import Mathlib.Analysis.Real.Sqrt

/-!
# The smoothed position

The tracker moves only towards what it sees. So the position and the size that it reports lie, on
each axis, between two values that it has seen since the last reset, and rounding does not take them
out of there.

A jump is measured by its length but cut on each axis. A jump that is longer than `max_jump` and
goes along no axis is therefore cut to something longer than `max_jump`.
-/

namespace DroneBridge

open Binary64 (roundEven roundEven_intCast roundEven_mono)

/-! ## Between what has been seen -/

namespace LandingDetection

def posX (d : LandingDetection) : ℤ := d.hPosition.1

def posY (d : LandingDetection) : ℤ := d.hPosition.2

def width (d : LandingDetection) : ℤ := (d.hSize.getD (0, 0)).1

def height (d : LandingDetection) : ℤ := (d.hSize.getD (0, 0)).2

/-- What is measured of the mark. -/
def measures : List (LandingDetection → ℤ) := [posX, posY, width, height]

theorem forall_measures {P : (LandingDetection → ℤ) → Prop} :
    (∀ m ∈ measures, P m) ↔ P posX ∧ P posY ∧ P width ∧ P height := by
  simp [measures]

end LandingDetection

open LandingDetection

def values (m : LandingDetection → ℤ) (seen : List LandingDetection) : Set ℤ :=
  m '' {d | d ∈ seen}

/-- The points between the values of two measures. -/
def box (mx my : LandingDetection → ℤ) (seen : List LandingDetection) : Set (ℚ × ℚ) :=
  Hull ((↑) '' values mx seen) ×ˢ Hull ((↑) '' values my seen)

section Box

variable {m mx my : LandingDetection → ℤ} {seen : List LandingDetection} {raw : LandingDetection}

theorem mem_values_concat : m raw ∈ values m (seen ++ [raw]) :=
  ⟨raw, List.mem_append_right _ (List.mem_singleton_self raw), rfl⟩

theorem values_subset_concat : values m seen ⊆ values m (seen ++ [raw]) :=
  Set.image_mono fun _ hd ↦ List.mem_append_left _ hd

theorem box_subset_concat : box mx my seen ⊆ box mx my (seen ++ [raw]) :=
  Set.prod_mono (Hull.mono (Set.image_mono values_subset_concat))
    (Hull.mono (Set.image_mono values_subset_concat))

theorem mem_box_concat : ((mx raw : ℚ), (my raw : ℚ)) ∈ box mx my (seen ++ [raw]) :=
  ⟨Hull.mem_of_mem ⟨_, mem_values_concat, rfl⟩, Hull.mem_of_mem ⟨_, mem_values_concat, rfl⟩⟩

/-- Whole numbers stay where they are, so rounding does not leave the hull. -/
theorem roundEven_mem_hull {s : Set ℤ} {x : ℚ} (hx : x ∈ Hull ((↑) '' s)) :
    roundEven x ∈ Hull s := by
  have hround := Hull.map (f := roundEven) (fun _ _ ↦ roundEven_mono) hx
  rw [Set.image_image] at hround
  simpa only [roundEven_intCast, Set.image_id'] using hround

theorem emaPoint_mem {s₁ s₂ : Set ℚ} {prev : Option (ℚ × ℚ)} {new : ℚ × ℚ} {alpha : ℚ}
    (ha : 0 ≤ alpha) (ha' : alpha ≤ 1) (hprev : ∀ p, prev = some p → p ∈ Hull s₁ ×ˢ Hull s₂)
    (hnew : new ∈ Hull s₁ ×ˢ Hull s₂) :
    TrackerFloat.exact.emaPoint prev new alpha ∈ Hull s₁ ×ˢ Hull s₂ := by
  cases prev with
  | none => exact hnew
  | some p =>
    obtain ⟨hx, hy⟩ := hprev p rfl
    exact ⟨Hull.mem_mean hx hnew.1 ha ha', Hull.mem_mean hy hnew.2 ha ha'⟩

theorem limitJump_mem {s₁ s₂ : Set ℚ} {prev : Option (ℚ × ℚ)} {new : ℚ × ℚ} {maxJump : ℚ}
    (hjump : 0 ≤ maxJump) (hprev : ∀ p, prev = some p → p ∈ Hull s₁ ×ˢ Hull s₂)
    (hnew : new ∈ Hull s₁ ×ˢ Hull s₂) :
    TrackerFloat.exact.limitJump prev new maxJump ∈ Hull s₁ ×ˢ Hull s₂ := by
  cases prev with
  | none => exact hnew
  | some p =>
    obtain ⟨hx, hy⟩ := hprev p rfl
    rw [TrackerFloat.limitJump]
    split
    · exact ⟨Hull.mem_towards hx hnew.1 hjump, Hull.mem_towards hy hnew.2 hjump⟩
    · exact hnew

end Box

theorem TrackerConf.maxJump_nonneg {c : TrackerConf} (hc : 0 ≤ c.maxJumpFrac)
    (outputSize : ℤ × ℤ) : 0 ≤ c.maxJump .exact outputSize := by
  have hdim : (0 : ℤ) ≤ max (max outputSize.1 outputSize.2) 1 := le_max_of_le_right zero_le_one
  exact mul_nonneg (by exact_mod_cast hdim) hc

namespace SmoothTracker

/-- The detector gives the size of the mark. -/
def Sized (d : LandingDetection) : Prop := 1 ≤ d.width ∧ 1 ≤ d.height

/-- Everything that the tracker keeps of the position and the size is between what it has seen. -/
structure Within (seen : List LandingDetection) (t : SmoothTracker) : Prop where
  sized : ∀ d ∈ seen, Sized d
  pos : ∀ p, t.posF = some p → p ∈ box posX posY seen
  size : ∀ s, t.sizeF = some s → s ∈ box width height seen
  smooth : ∀ d, t.smooth = some d → ∀ m ∈ measures, m d ∈ Hull (values m seen)

variable {c : TrackerConf} {seen : List LandingDetection} {t : SmoothTracker}
  {raw : LandingDetection} {outputSize : ℤ × ℤ}

theorem nextPos_mem (ha : 0 ≤ c.emaAlpha) (ha' : c.emaAlpha ≤ 1) (hjump : 0 ≤ c.maxJumpFrac)
    (ht : Within seen t) :
    nextPos .exact c t raw outputSize ∈ box posX posY (seen ++ [raw]) := by
  have hprev : ∀ p, t.posF = some p → p ∈ box posX posY (seen ++ [raw]) :=
    fun p hp ↦ box_subset_concat (ht.pos p hp)
  exact emaPoint_mem ha ha' hprev
    (limitJump_mem (c.maxJump_nonneg hjump outputSize) hprev mem_box_concat)

theorem nextSize_mem (ha : 0 ≤ c.emaAlpha) (ha' : c.emaAlpha ≤ 1) (ht : Within seen t) :
    nextSize .exact c t raw ∈ box width height (seen ++ [raw]) :=
  emaPoint_mem ha ha' (fun s hs ↦ box_subset_concat (ht.size s hs)) mem_box_concat

theorem max_one_mem_hull {m : LandingDetection → ℤ} {x : ℤ} (hx : x ∈ Hull (values m seen))
    (hm : ∀ d ∈ seen, 1 ≤ m d) : max 1 x ∈ Hull (values m seen) := by
  have hone : 1 ≤ x := by
    refine Hull.le_of_forall_le ?_ hx
    rintro _ ⟨d, hd, rfl⟩
    exact hm d hd
  rwa [max_eq_right hone]

theorem Within.follow (ha : 0 ≤ c.emaAlpha) (ha' : c.emaAlpha ≤ 1) (hjump : 0 ≤ c.maxJumpFrac)
    (hraw : Sized raw) (ht : Within seen t) :
    Within (seen ++ [raw]) (follow .exact c t raw outputSize) := by
  have hpos : nextPos .exact c t raw outputSize ∈ _ := nextPos_mem ha ha' hjump ht
  have hsize : nextSize .exact c t raw ∈ _ := nextSize_mem ha ha' ht
  have hsized : ∀ d ∈ seen ++ [raw], Sized d := by
    rw [List.forall_mem_append, List.forall_mem_singleton]
    exact ⟨ht.sized, hraw⟩
  refine ⟨hsized, ?_, ?_, ?_⟩
  · rintro p ⟨⟩
    exact hpos
  · rintro s ⟨⟩
    exact hsize
  · rintro d ⟨⟩
    rw [forall_measures]
    exact ⟨roundEven_mem_hull hpos.1, roundEven_mem_hull hpos.2,
      max_one_mem_hull (roundEven_mem_hull hsize.1) fun d hd ↦ (hsized d hd).1,
      max_one_mem_hull (roundEven_mem_hull hsize.2) fun d hd ↦ (hsized d hd).2⟩

theorem within_after {frames : List TrackerFrame} (ha : 0 ≤ c.emaAlpha) (ha' : c.emaAlpha ≤ 1)
    (hjump : 0 ≤ c.maxJumpFrac) (hsized : ∀ f ∈ frames, ∀ raw, f.raw = some raw → Sized raw) :
    Within (SmoothTracker.seen c frames) (after .exact c frames) := by
  apply after_induction
  · exact ⟨by simp, by simp [reset], by simp [reset], by simp [reset]⟩
  · intro seen t ht
    exact ⟨ht.sized, ht.pos, ht.size, ht.smooth⟩
  · intro f hf raw hraw seen t ht
    exact ht.follow ha ha' hjump (hsized f hf raw hraw)

/-- The position and the size in a report, held or not, are between what has been seen since the
last reset. -/
theorem report_mem_hull {frames : List TrackerFrame} {f : TrackerFrame} {d : LandingDetection}
    (ha : 0 ≤ c.emaAlpha) (ha' : c.emaAlpha ≤ 1) (hjump : 0 ≤ c.maxJumpFrac)
    (hsized : ∀ g ∈ frames ++ [f], ∀ raw, g.raw = some raw → Sized raw)
    (hd : ((after .exact c frames).accept .exact c f.outputSize f.raw).2 = some d) :
    ∀ m ∈ measures, m d ∈ Hull (values m (SmoothTracker.seen c (frames ++ [f]))) := by
  obtain ⟨kept, hkept, hsame⟩ := smooth_of_report hd
  rw [← after_concat] at hkept
  have hmem := (within_after ha ha' hjump hsized).smooth kept hkept
  rcases hsame with rfl | rfl
  · exact hmem
  · -- a held report differs in its mark only
    rw [forall_measures] at hmem ⊢
    exact hmem

theorem report_mem_hull_of_two :
    let f₁ := TrackerFrame.markAt 100 100 (640, 480)
    let f₂ := TrackerFrame.markAt 110 90 (640, 480)
    ∃ d, ((after .exact {} [f₁]).accept .exact {} f₂.outputSize f₂.raw).2 = some d ∧
      ∀ m ∈ measures, m d ∈ Hull (values m (SmoothTracker.seen {} ([f₁] ++ [f₂]))) := by
  refine ⟨_, rfl, ?_⟩
  refine report_mem_hull (by decide +kernel) (by decide +kernel) (by decide +kernel) ?_ rfl
  simp [TrackerFrame.markAt, Sized, width, height]

end SmoothTracker

/-! ## The longest move -/

/-- How far the second point is from the first. -/
noncomputable def distance (p q : ℚ × ℚ) : ℝ :=
  √(((q.1 - p.1) ^ 2 + (q.2 - p.2) ^ 2 : ℚ) : ℝ)

theorem distance_le_iff {p q : ℚ × ℚ} {b : ℚ} :
    distance p q ≤ b ↔ 0 ≤ b ∧ (q.1 - p.1) ^ 2 + (q.2 - p.2) ^ 2 ≤ b ^ 2 := by
  rw [distance, Real.sqrt_le_iff]
  norm_cast

theorem rootExceeds_exact_iff {p q : ℚ × ℚ} {b : ℚ} :
    TrackerFloat.exact.rootExceeds ((q.1 - p.1) * (q.1 - p.1) + (q.2 - p.2) * (q.2 - p.2)) b ↔
      b < distance p q := by
  rw [← not_le, distance_le_iff, not_and_or, not_le, not_le, ← sq, ← sq, sq b]
  simp [TrackerFloat.exact]

/-- Cutting a number at `b` on both sides cuts its square at the square of `b`. -/
theorem clamp_sq {b : ℚ} (hb : 0 ≤ b) (x : ℚ) : (max (-b) (min x b)) ^ 2 = min (x ^ 2) (b ^ 2) := by
  rcases le_total b x with hhi | hhi
  · rw [min_eq_right hhi, max_eq_right (neg_le_self hb), min_eq_right (pow_le_pow_left₀ hb hhi 2)]
  · rw [min_eq_left hhi]
    rcases le_total (-b) x with hlo | hlo
    · rw [max_eq_right hlo, min_eq_left (sq_le_sq' hlo hhi)]
    · have hsq := pow_le_pow_left₀ hb (le_neg.mpr hlo) 2
      rw [neg_sq] at hsq
      rw [max_eq_left hlo, min_eq_right hsq, neg_sq]

/-- A jump that is cut is within the bound only along an axis. -/
theorem cut_le_iff {b x y : ℚ} (hb : 0 ≤ b) (hlong : b ^ 2 < x ^ 2 + y ^ 2) :
    (max (-b) (min x b)) ^ 2 + (max (-b) (min y b)) ^ 2 ≤ b ^ 2 ↔ b = 0 ∨ x = 0 ∨ y = 0 := by
  rw [clamp_sq hb, clamp_sq hb]
  constructor
  · intro hle
    by_contra hne
    push Not at hne
    obtain ⟨hb0, hx0, hy0⟩ := hne
    have hbpos := sq_pos_of_ne_zero hb0
    have hxpos := sq_pos_of_ne_zero hx0
    have hypos := sq_pos_of_ne_zero hy0
    rcases le_total (x ^ 2) (b ^ 2) with hx | hx <;>
      rcases le_total (y ^ 2) (b ^ 2) with hy | hy <;>
      simp only [min_eq_left, min_eq_right, hx, hy] at hle <;> linarith
  · have hx := min_le_right (x ^ 2) (b ^ 2)
    have hy := min_le_right (y ^ 2) (b ^ 2)
    have hx' := min_le_left (x ^ 2) (b ^ 2)
    have hy' := min_le_left (y ^ 2) (b ^ 2)
    rintro (rfl | rfl | rfl) <;> linarith

theorem limitJump_le_iff {p q : ℚ × ℚ} {b : ℚ} :
    distance p (TrackerFloat.exact.limitJump (some p) q b) ≤ b ↔
      0 ≤ b ∧ (b = 0 ∨ q.1 = p.1 ∨ q.2 = p.2 ∨ distance p q ≤ b) := by
  by_cases hle : distance p q ≤ b
  · have hkeep : TrackerFloat.exact.limitJump (some p) q b = q :=
      if_neg (mt rootExceeds_exact_iff.mp (not_lt.mpr hle))
    rw [hkeep]
    exact ⟨fun _ ↦ ⟨(distance_le_iff.mp hle).1, .inr (.inr (.inr hle))⟩, fun _ ↦ hle⟩
  · have hcut : TrackerFloat.exact.limitJump (some p) q b =
        (p.1 + max (-b) (min (q.1 - p.1) b), p.2 + max (-b) (min (q.2 - p.2) b)) :=
      if_pos (rootExceeds_exact_iff.mpr (not_le.mp hle))
    rw [hcut, distance_le_iff, add_sub_cancel_left, add_sub_cancel_left]
    refine and_congr_right fun hb ↦ ?_
    have hlong : b ^ 2 < (q.1 - p.1) ^ 2 + (q.2 - p.2) ^ 2 :=
      not_le.mp fun hsq ↦ hle (distance_le_iff.mpr ⟨hb, hsq⟩)
    rw [cut_le_iff hb hlong, sub_eq_zero, sub_eq_zero]
    simp only [hle, or_false]

theorem distance_share {p q : ℚ × ℚ} {a : ℚ} (ha : 0 ≤ a) :
    distance p (p.1 + a * (q.1 - p.1), p.2 + a * (q.2 - p.2)) = a * distance p q := by
  have hsq : (p.1 + a * (q.1 - p.1) - p.1) ^ 2 + (p.2 + a * (q.2 - p.2) - p.2) ^ 2 =
      a ^ 2 * ((q.1 - p.1) ^ 2 + (q.2 - p.2) ^ 2) := by ring
  rw [distance, distance, hsq, Rat.cast_mul, Rat.cast_pow, Real.sqrt_mul (sq_nonneg _),
    Real.sqrt_sq (by exact_mod_cast ha)]

namespace SmoothTracker

variable {c : TrackerConf} {t : SmoothTracker} {raw : LandingDetection} {outputSize : ℤ × ℤ}
  {p : ℚ × ℚ}

/-- The smoothed position moves by a share of the jump that is left. -/
theorem nextPos_exact (ht : t.posF = some p) :
    nextPos .exact c t raw outputSize =
      let q := TrackerFloat.exact.limitJump (some p) (castPoint raw.hPosition)
        (c.maxJump .exact outputSize)
      (p.1 + c.emaAlpha * (q.1 - p.1), p.2 + c.emaAlpha * (q.2 - p.2)) := by
  rw [nextPos, ht]
  ext
  · change p.1 * (1 - c.emaAlpha) + _ * c.emaAlpha = _
    ring
  · change p.2 * (1 - c.emaAlpha) + _ * c.emaAlpha = _
    ring

/-- The smoothed position moves by no more than its share of `max_jump` exactly when the jump is no
longer than that or goes along an axis. -/
theorem move_le_iff (ha : 0 ≤ c.emaAlpha) (ht : t.posF = some p) :
    ∃ p', (t.accept .exact c outputSize (some raw)).1.posF = some p' ∧
      (distance p p' ≤ (c.emaAlpha * c.maxJump .exact outputSize : ℚ) ↔
        c.emaAlpha = 0 ∨ 0 ≤ c.maxJump .exact outputSize ∧
          (c.maxJump .exact outputSize = 0 ∨ raw.hPosition.1 = p.1 ∨ raw.hPosition.2 = p.2 ∨
            distance p (castPoint raw.hPosition) ≤ c.maxJump .exact outputSize)) := by
  refine ⟨_, rfl, ?_⟩
  rw [nextPos_exact ht, distance_share ha, Rat.cast_mul]
  rcases ha.eq_or_lt with hzero | hpos
  · simp [← hzero]
  · have hpos' : (0 : ℝ) < c.emaAlpha := by exact_mod_cast hpos
    rw [mul_le_mul_iff_right₀ hpos', limitJump_le_iff]
    simp only [hpos.ne', false_or]
    rfl

theorem move_le_share_of_short :
    let c : TrackerConf := {}
    let t := after .exact c [.markAt 100 100 (640, 480)]
    ∃ p', (t.accept .exact c (640, 480) (TrackerFrame.markAt 110 90 (640, 480)).raw).1.posF =
        some p' ∧
      distance (100, 100) p' ≤ (c.emaAlpha * c.maxJump .exact (640, 480) : ℚ) := by
  obtain ⟨p', hp', hiff⟩ := @move_le_iff {} (after .exact {} [.markAt 100 100 (640, 480)])
    { hPosition := (110, 90), hSize := some (40, 40) } (640, 480) (100, 100)
    (by decide +kernel) (by decide +kernel)
  refine ⟨p', hp', hiff.mpr (.inr ⟨by decide +kernel, .inr (.inr (.inr ?_))⟩)⟩
  rw [distance_le_iff]
  decide +kernel

/-- A jump along no axis of a picture of 640 by 480. -/
theorem move_exceeds_share :
    let c : TrackerConf := {}
    let t := after .exact c [.markAt 100 100 (640, 480)]
    ∃ p p', t.posF = some p ∧
      (t.accept .exact c (640, 480) (TrackerFrame.markAt 300 300 (640, 480)).raw).1.posF = some p' ∧
      ((c.emaAlpha * c.maxJump .exact (640, 480) : ℚ) : ℝ) < distance p p' := by
  refine ⟨(100, 100), (125088 / 1000, 125088 / 1000), by decide +kernel, by decide +kernel, ?_⟩
  rw [← not_le, distance_le_iff]
  decide +kernel

end SmoothTracker

end DroneBridge
