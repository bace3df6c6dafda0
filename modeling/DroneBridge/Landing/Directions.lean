import DroneBridge.Landing.Tracker

/-!
# The reported direction

A side that was named is kept only while the offset is beyond a smaller bound on that side; the
larger bound decides only when no side was named before. So when the mark goes from one side to the
other in one frame, no side is named for that frame, however far away the mark is.
-/

namespace DroneBridge

section Side

variable {σ : Type*} {pos neg : σ} {prev : Option σ} {threshold off offset : ℤ}

/-- An offset beyond the threshold has a side named, and a named side is that of the offset. -/
def SideAgrees (pos neg : σ) (threshold offset : ℤ) (side : Option σ) : Prop :=
  (threshold < offset.natAbs → side ≠ none) ∧ (side = some pos → 0 < offset) ∧
    (side = some neg → offset < 0)

theorem sideAgrees_none : SideAgrees pos neg threshold offset none ↔ offset.natAbs ≤ threshold := by
  simp [SideAgrees]

theorem sideAgrees_sign (hne : pos ≠ neg) :
    SideAgrees pos neg threshold offset (some (if 0 < offset then pos else neg)) ↔ offset ≠ 0 := by
  rw [SideAgrees]
  split_ifs with hpos
  · simp [hpos, hpos.ne', hne]
  · simp [hpos, hne.symm]
    omega

theorem sideAgrees_ite (hne : pos ≠ neg) {on : Prop} [Decidable on] :
    SideAgrees pos neg threshold offset
        (if on then some (if 0 < offset then pos else neg) else none) ↔
      if on then offset ≠ 0 else offset.natAbs ≤ threshold := by
  by_cases hon : on
  · rw [if_pos hon, if_pos hon, sideAgrees_sign hne]
  · rw [if_neg hon, if_neg hon, sideAgrees_none]

variable [DecidableEq σ]

/-- The offset did not leave the side that was named for one beyond the threshold. -/
def SideSteady (pos neg : σ) (threshold off : ℤ) (prev : Option σ) (offset : ℤ) : Prop :=
  if prev = some pos then offset.natAbs ≤ threshold ∨ off < offset
  else if prev = some neg then offset.natAbs ≤ threshold ∨ offset < -off
  else 0 ≤ threshold ∨ offset ≠ 0

theorem sideAgrees_namedSide_iff (hne : pos ≠ neg) (hoff : 0 ≤ off) :
    SideAgrees pos neg threshold offset (namedSide pos neg prev threshold off offset) ↔
      SideSteady pos neg threshold off prev offset := by
  rw [namedSide, sideAgrees_ite hne, SideSteady]
  split_ifs <;> omega

end Side

/-- The direction agrees with the offset on both axes. -/
def Agrees (threshold : ℤ) (d : LandingDetection) : Prop :=
  SideAgrees .right .left threshold d.offsetX d.direction.x ∧
    SideAgrees .down .up threshold d.offsetY d.direction.y

namespace SmoothTracker

variable {F : TrackerFloat} {c : TrackerConf} {t : SmoothTracker} {raw : LandingDetection}
  {outputSize : ℤ × ℤ} {frames : List TrackerFrame}

/-- The mark does not go from a named side to beyond the threshold. -/
def Steady (F : TrackerFloat) (c : TrackerConf) (t : SmoothTracker) (raw : LandingDetection)
    (outputSize : ℤ × ℤ) : Prop :=
  let off := directionOff c.directionThreshold c.directionHysteresis
  let offset := nextOffset F c t raw outputSize
  SideSteady .right .left c.directionThreshold off t.direction.x offset.1 ∧
    SideSteady .down .up c.directionThreshold off t.direction.y offset.2

theorem agrees_report_iff :
    Agrees c.directionThreshold (report F c t raw outputSize) ↔ Steady F c t raw outputSize := by
  have hoff : 0 ≤ directionOff c.directionThreshold c.directionHysteresis :=
    le_max_of_le_right (by decide)
  exact and_congr (sideAgrees_namedSide_iff (by decide) hoff)
    (sideAgrees_namedSide_iff (by decide) hoff)

/-- A report on one of the frames. -/
def Reports (F : TrackerFloat) (c : TrackerConf) (frames : List TrackerFrame)
    (d : LandingDetection) : Prop :=
  ∃ before f rest, frames = before ++ f :: rest ∧
    ((after F c before).accept F c f.outputSize f.raw).2 = some d

/-- Every frame with the mark in it finds the mark steady. -/
def AlwaysSteady (F : TrackerFloat) (c : TrackerConf) (frames : List TrackerFrame) : Prop :=
  ∀ before f rest raw, frames = before ++ f :: rest → f.raw = some raw →
    Steady F c (after F c before) raw f.outputSize

theorem agrees_smooth (h : AlwaysSteady F c frames) {d : LandingDetection}
    (hd : (after F c frames).smooth = some d) : Agrees c.directionThreshold d := by
  induction frames using List.reverseRecOn with
  | nil => cases hd
  | append_singleton frames f ih =>
    have hbefore : AlwaysSteady F c frames := by
      rintro before g rest raw rfl hraw
      exact h before g (rest ++ [f]) raw (by simp) hraw
    rw [after_concat] at hd
    cases hraw : f.raw with
    | some raw =>
      rw [hraw] at hd
      cases hd
      exact agrees_report_iff.mpr (h frames f [] raw rfl hraw)
    | none =>
      rw [hraw, accept, miss_fst] at hd
      split_ifs at hd
      · cases hd
      · exact ih hbefore hd

/-- All the reports of a run agree with their offsets exactly when the mark is always steady. -/
theorem directions_agree_iff :
    (∀ d, Reports F c frames d → Agrees c.directionThreshold d) ↔ AlwaysSteady F c frames := by
  constructor
  · intro h before f rest raw hsplit hraw
    refine agrees_report_iff.mp (h _ ⟨before, f, rest, hsplit, ?_⟩)
    rw [hraw]
    rfl
  · rintro h d ⟨before, f, rest, rfl, hd⟩
    obtain ⟨kept, hkept, hsame⟩ := smooth_of_report hd
    rw [← after_concat] at hkept
    have hupto : AlwaysSteady F c (before ++ [f]) := by
      rintro before' g rest' raw hsplit hraw
      refine h before' g (rest' ++ rest) raw ?_ hraw
      rw [← List.singleton_append, ← List.append_assoc, hsplit]
      simp
    have hagrees := agrees_smooth hupto hkept
    rcases hsame with rfl | rfl
    · exact hagrees
    · exact hagrees

/-- A mark that goes from 40 right of the middle to the left of it is reported as centred, 35 left
of the middle. -/
theorem center_reported_off_center :
    let frames := [TrackerFrame.markAt 1000 540 (1920, 1080), .markAt 700 540 (1920, 1080)]
    let c : TrackerConf := {}
    ∃ d, Reports .exact c frames d ∧ d.offsetX = -35 ∧ d.direction.text = "CENTER" ∧
      ¬ Agrees c.directionThreshold d := by
  refine ⟨_, ⟨[_], _, [], rfl, rfl⟩, by decide +kernel, by decide +kernel, ?_⟩
  rintro ⟨⟨hnamed, -⟩, -⟩
  exact hnamed (by decide +kernel) (by decide +kernel)

end SmoothTracker

end DroneBridge
