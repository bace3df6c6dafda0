import DroneBridge.Landing.Chain
import DroneBridge.Landing.Tracker

/-!
# The landing detector in the worker

The worker of the pipeline hands each frame to its processors and stores the result. Two counters
bridge a loss of the mark, one after the other: the tracker repeats its last report for some misses,
and only when it stops does the pipeline begin to count, while it goes on showing the last hit. So a
lost mark is shown for the sum of both holds, and for no longer.
-/

namespace DroneBridge

/-! ## How long ago -/

/-- How many outcomes ago the last hit was. -/
def age (hits : List Bool) : Option ℕ :=
  hits.foldl (fun a hit ↦ if hit then some 0 else a.map (· + 1)) none

theorem age_concat (hits : List Bool) (hit : Bool) :
    age (hits ++ [hit]) = if hit then some 0 else (age hits).map (· + 1) := by
  rw [age, age, List.foldl_append, List.foldl_cons, List.foldl_nil]

theorem age_le_iff (hits : List Bool) (n : ℤ) :
    (∃ k : ℕ, age hits = some k ∧ k ≤ n) ↔ ∃ k : ℕ, k ≤ n ∧ hits.reverse[k]? = some true := by
  induction hits using List.reverseRecOn generalizing n with
  | nil => simp [age]
  | append_singleton hits hit ih =>
    rw [age_concat, List.reverse_concat]
    constructor
    · rintro ⟨k, hage, hk⟩
      cases hit with
      | true =>
        cases hage
        exact ⟨0, hk, rfl⟩
      | false =>
        obtain ⟨j, hj, rfl⟩ := Option.map_eq_some_iff.mp hage
        obtain ⟨i, hi, hget⟩ := (ih (n - 1)).mp ⟨j, hj, by omega⟩
        exact ⟨i + 1, by omega, hget⟩
    · rintro ⟨k, hk, hget⟩
      cases hit with
      | true => exact ⟨0, rfl, by omega⟩
      | false =>
        cases k with
        | zero => cases hget
        | succ i =>
          obtain ⟨j, hj, hle⟩ := (ih (n - 1)).mpr ⟨i, by omega, hget⟩
          exact ⟨j + 1, Option.map_eq_some_iff.mpr ⟨j, hj, rfl⟩, by omega⟩

/-! ## The worker -/

/-- A processor takes every `frameSkip`-th frame. -/
def wantsFrame (frameSkip frameID : ℤ) : Bool := frameID % max frameSkip 1 = 0

/-- A landing detector, of either kind. -/
structure LandingProcessor where
  enabled : Bool := true
  frameSkip : ℤ := 3
  conf : TrackerConf := {}

/-- A frame and what the detector makes of it; the detector may raise an exception. -/
structure LandingFrame where
  id : ℤ
  raw : Except String (Option LandingDetection)
  storedAt : ℕ

/-- The detector has found the mark. -/
def LandingFrame.hit (f : LandingFrame) : Bool :=
  match f.raw with
  | .ok raw => raw.isSome
  | .error _ => false

theorem LandingFrame.hit_iff {f : LandingFrame} : f.hit = true ↔ ∃ raw, f.raw = .ok (some raw) := by
  rw [hit]
  rcases f.raw with _ | raw
  · simp
  · simp [Option.isSome_iff_exists]

/-- The worker with the tracker of its processor. -/
structure LandingWorker where
  tracker : SmoothTracker
  /-- The entry `detection_result`; a result that says `detected: False` is `none`. -/
  result : Option LandingDetection
  count : Option ℕ
  pipeline : ProcessingPipeline

/-- What the worker stores of a result. -/
def LandingDetection.stored : Option LandingDetection → Detection
  | .none => .none
  | .some d => ⟨true, .some d.offsetX, .some d.offsetY, .some d.direction.text, .some d.similarity⟩

namespace LandingWorker

variable (F : TrackerFloat) (p : LandingProcessor) (size : ℤ × ℤ) (overlayHoldFrames : ℤ)

def start (now : ℕ) : LandingWorker := ⟨.reset, none, none, ⟨.none, 0, 0, now⟩⟩

/-- The processor's part in a frame. -/
def process (w : LandingWorker) (f : LandingFrame) : LandingWorker :=
  if p.enabled && wantsFrame p.frameSkip f.id then
    match f.raw with
    | .error _ => { w with result := none }
    | .ok raw =>
      let (tracker, stable) := w.tracker.accept F p.conf size raw
      { w with
        tracker := tracker
        result := stable
        count := if stable.isSome then some (w.count.getD 0 + 1) else w.count }
  else w

def turn (w : LandingWorker) (f : LandingFrame) : LandingWorker :=
  let w := w.process F p size f
  { w with
    pipeline := w.pipeline.store (displayHold overlayHoldFrames) (LandingDetection.stored w.result)
      (w.count.getD w.pipeline.detectionsCount) f.storedAt }

def run (now : ℕ) (frames : List LandingFrame) : LandingWorker :=
  frames.foldl (turn F p size overlayHoldFrames) (start now)

theorem run_concat (now : ℕ) (frames : List LandingFrame) (f : LandingFrame) :
    run F p size overlayHoldFrames now (frames ++ [f]) =
      (run F p size overlayHoldFrames now frames).turn F p size overlayHoldFrames f := by
  rw [run, run, List.foldl_append, List.foldl_cons, List.foldl_nil]

end LandingWorker

/-! ## One turn -/

namespace ProcessingPipeline

variable {p : ProcessingPipeline} {hold : ℤ} {d : Detection} {count now : ℕ}

theorem store_hit (hd : d.detected = true) :
    (p.store hold d count now).latestDetection = d ∧
      (p.store hold d count now).displayMiss = 0 := by
  rw [store, if_pos hd]
  exact ⟨rfl, rfl⟩

theorem store_miss_of_lt (hd : d.detected = false) (hp : p.latestDetection.detected = true)
    (hlt : p.displayMiss < hold) :
    (p.store hold d count now).latestDetection = p.latestDetection ∧
      (p.store hold d count now).displayMiss = p.displayMiss + 1 := by
  rw [store, if_neg (by simp [hd]), if_pos ⟨hp, hlt⟩]
  exact ⟨rfl, rfl⟩

theorem store_miss_of_not (hd : d.detected = false)
    (hp : ¬ (p.latestDetection.detected = true ∧ p.displayMiss < hold)) :
    (p.store hold d count now).latestDetection = d := by
  rw [store, if_neg (by simp [hd]), if_neg hp]

end ProcessingPipeline

namespace LandingWorker

variable (F : TrackerFloat) {p : LandingProcessor} (size : ℤ × ℤ) (overlayHoldFrames : ℤ)
  (w : LandingWorker) {f : LandingFrame}

/-- The detector looks at the frame. -/
def Takes (p : LandingProcessor) (f : LandingFrame) : Prop :=
  p.enabled = true ∧ wantsFrame p.frameSkip f.id = true

theorem turn_of_takes {raw : Option LandingDetection} (hf : Takes p f) (hraw : f.raw = .ok raw) :
    (w.turn F p size overlayHoldFrames f).tracker = (w.tracker.accept F p.conf size raw).1 ∧
      ∃ count, (w.turn F p size overlayHoldFrames f).pipeline =
        w.pipeline.store (displayHold overlayHoldFrames)
          (LandingDetection.stored (w.tracker.accept F p.conf size raw).2) count f.storedAt := by
  have hprocess : (p.enabled && wantsFrame p.frameSkip f.id) = true := by rw [hf.1, hf.2]; rfl
  rw [turn, process, if_pos hprocess, hraw]
  exact ⟨rfl, _, rfl⟩

variable {F size overlayHoldFrames w}

/-- Where the worker is, by the age of the last hit. -/
inductive Phase (hold display : ℤ) : Option ℕ → LandingWorker → Prop
  /-- There was no hit. -/
  | never {w : LandingWorker} (hsmooth : w.tracker.smooth = none)
    (hlatest : w.pipeline.latestDetection.detected = false) : Phase hold display none w
  | tracked {w : LandingWorker} {k : ℕ} (hk : k ≤ hold) (hsmooth : w.tracker.smooth.isSome = true)
    (hstreak : w.tracker.missStreak = k) (hlatest : w.pipeline.latestDetection.detected = true)
    (hmiss : w.pipeline.displayMiss = 0) : Phase hold display (some k) w
  /-- The tracker has forgotten the mark, and the pipeline shows it. -/
  | shown {w : LandingWorker} {k : ℕ} (hlo : hold < k) (hhi : k ≤ hold + display)
    (hsmooth : w.tracker.smooth = none) (hlatest : w.pipeline.latestDetection.detected = true)
    (hmiss : w.pipeline.displayMiss = k - hold) : Phase hold display (some k) w
  /-- The mark is shown no longer. -/
  | gone {w : LandingWorker} {k : ℕ} (hk : hold + display < k) (hsmooth : w.tracker.smooth = none)
    (hlatest : w.pipeline.latestDetection.detected = false) : Phase hold display (some k) w

theorem phase_hit {raw : LandingDetection} (hf : Takes p f) (hraw : f.raw = .ok (some raw)) :
    Phase p.conf.hold (displayHold overlayHoldFrames) (some 0)
      (w.turn F p size overlayHoldFrames f) := by
  obtain ⟨htracker, count, hpipeline⟩ := turn_of_takes F size overlayHoldFrames w hf hraw
  have hhold : ((0 : ℕ) : ℤ) ≤ p.conf.hold := le_max_of_le_right zero_le_one
  refine .tracked hhold ?_ ?_ ?_ ?_
  · rw [htracker]
    rfl
  · rw [htracker]
    rfl
  · rw [hpipeline, (ProcessingPipeline.store_hit rfl).1]
    rfl
  · rw [hpipeline, (ProcessingPipeline.store_hit rfl).2]

theorem phase_miss_of_tracked {k : ℕ} (hf : Takes p f) (hraw : f.raw = .ok none)
    (hk : k ≤ p.conf.hold) (hsmooth : w.tracker.smooth.isSome = true)
    (hstreak : w.tracker.missStreak = k) (hlatest : w.pipeline.latestDetection.detected = true)
    (hmiss : w.pipeline.displayMiss = 0) :
    Phase p.conf.hold (displayHold overlayHoldFrames) (some (k + 1))
      (w.turn F p size overlayHoldFrames f) := by
  obtain ⟨htracker, count, hpipeline⟩ := turn_of_takes F size overlayHoldFrames w hf hraw
  rw [SmoothTracker.accept] at htracker hpipeline
  have hdisplay : 4 ≤ displayHold overlayHoldFrames := le_max_right _ _
  rcases lt_or_ge p.conf.hold (w.tracker.missStreak + 1 : ℤ) with hlt | hle
  · -- the first miss that the tracker does not report is the first that the pipeline counts
    rw [SmoothTracker.miss_of_lt hlt] at htracker hpipeline
    have hroom : (w.pipeline.displayMiss : ℤ) < displayHold overlayHoldFrames := by omega
    refine .shown (by omega) (by omega) (htracker ▸ rfl) ?_ ?_
    · rw [hpipeline, (ProcessingPipeline.store_miss_of_lt rfl hlatest hroom).1, hlatest]
    · rw [hpipeline, (ProcessingPipeline.store_miss_of_lt rfl hlatest hroom).2]
      omega
  · obtain ⟨hcounted, hreport⟩ := SmoothTracker.miss_of_le hsmooth hle
    obtain ⟨d, hd⟩ := Option.isSome_iff_exists.mp hreport
    rw [hd] at hpipeline
    rw [hcounted] at htracker
    refine .tracked (by omega) (htracker ▸ hsmooth) ?_ ?_ ?_
    · rw [htracker, hstreak]
    · rw [hpipeline, (ProcessingPipeline.store_hit rfl).1]
      rfl
    · rw [hpipeline, (ProcessingPipeline.store_hit rfl).2]

theorem turn_of_smooth_none (hf : Takes p f) (hraw : f.raw = .ok none)
    (hsmooth : w.tracker.smooth = none) :
    (w.turn F p size overlayHoldFrames f).tracker.smooth = none ∧
      ∃ count, (w.turn F p size overlayHoldFrames f).pipeline =
        w.pipeline.store (displayHold overlayHoldFrames) .none count f.storedAt := by
  obtain ⟨htracker, count, hpipeline⟩ := turn_of_takes F size overlayHoldFrames w hf hraw
  obtain ⟨hnone, hreport⟩ := SmoothTracker.miss_of_none (c := p.conf) hsmooth
  rw [SmoothTracker.accept, hreport] at hpipeline
  exact ⟨htracker ▸ hnone, count, hpipeline⟩

theorem phase_miss {a : Option ℕ} (hf : Takes p f) (hraw : f.raw = .ok none)
    (hw : Phase p.conf.hold (displayHold overlayHoldFrames) a w) :
    Phase p.conf.hold (displayHold overlayHoldFrames) (a.map (· + 1))
      (w.turn F p size overlayHoldFrames f) := by
  cases hw with
  | never hsmooth hlatest =>
    obtain ⟨hnone, count, hpipeline⟩ := turn_of_smooth_none hf hraw hsmooth
    refine .never hnone ?_
    rw [hpipeline, ProcessingPipeline.store_miss_of_not rfl (by simp [hlatest])]
    rfl
  | tracked hk hsmooth hstreak hlatest hmiss =>
    exact phase_miss_of_tracked hf hraw hk hsmooth hstreak hlatest hmiss
  | shown hlo hhi hsmooth hlatest hmiss =>
    obtain ⟨hnone, count, hpipeline⟩ := turn_of_smooth_none hf hraw hsmooth
    rw [Option.map_some]
    rcases lt_or_ge (w.pipeline.displayMiss : ℤ) (displayHold overlayHoldFrames) with hroom | hfull
    · refine .shown (by omega) (by omega) hnone ?_ ?_
      · rw [hpipeline, (ProcessingPipeline.store_miss_of_lt rfl hlatest hroom).1, hlatest]
      · rw [hpipeline, (ProcessingPipeline.store_miss_of_lt rfl hlatest hroom).2]
        omega
    · refine .gone (by omega) hnone ?_
      rw [hpipeline,
        ProcessingPipeline.store_miss_of_not rfl fun hshown ↦ not_le.mpr hshown.2 hfull]
      rfl
  | gone hk hsmooth hlatest =>
    obtain ⟨hnone, count, hpipeline⟩ := turn_of_smooth_none hf hraw hsmooth
    rw [Option.map_some]
    refine .gone (by omega) hnone ?_
    rw [hpipeline, ProcessingPipeline.store_miss_of_not rfl (by simp [hlatest])]
    rfl

theorem Phase.detected_iff {hold display : ℤ} {a : Option ℕ} (hdisplay : 0 ≤ display)
    (hw : Phase hold display a w) :
    w.pipeline.latestDetection.detected = true ↔ ∃ k : ℕ, a = some k ∧ k ≤ hold + display := by
  cases hw with
  | never hsmooth hlatest => simp [hlatest]
  | tracked hk hsmooth hstreak hlatest hmiss =>
    simp only [hlatest, Option.some.injEq, exists_eq_left', true_iff]
    omega
  | shown hlo hhi hsmooth hlatest hmiss =>
    simp only [hlatest, Option.some.injEq, exists_eq_left', true_iff]
    exact hhi
  | gone hk hsmooth hlatest =>
    simp only [hlatest, Option.some.injEq, exists_eq_left', Bool.false_eq_true, false_iff, not_le]
    exact hk

/-! ## Whole runs -/

/-- The detector looks at every frame and raises no exception. -/
def Detects (p : LandingProcessor) (frames : List LandingFrame) : Prop :=
  ∀ f ∈ frames, Takes p f ∧ ∃ raw, f.raw = .ok raw

theorem phase_run {frames : List LandingFrame} {now : ℕ} (hall : Detects p frames) :
    Phase p.conf.hold (displayHold overlayHoldFrames) (age (frames.map LandingFrame.hit))
      (run F p size overlayHoldFrames now frames) := by
  induction frames using List.reverseRecOn with
  | nil => exact .never rfl rfl
  | append_singleton frames f ih =>
    obtain ⟨hbefore, hlast⟩ := List.forall_mem_append.mp hall
    obtain ⟨hf, raw, hraw⟩ := hlast f (List.mem_singleton_self f)
    rw [run_concat, List.map_append, List.map_singleton, age_concat, LandingFrame.hit, hraw]
    cases raw with
    | some raw => exact phase_hit hf hraw
    | none => exact phase_miss hf hraw (ih hbefore)

/-- The latest detection is a hit exactly when there was one no more than both holds ago. -/
theorem latestDetection_detected_iff {frames : List LandingFrame} {now : ℕ}
    (hall : Detects p frames) :
    (run F p size overlayHoldFrames now frames).pipeline.latestDetection.detected = true ↔
      ∃ k : ℕ, k ≤ p.conf.hold + displayHold overlayHoldFrames ∧
        ∃ f raw, frames.reverse[k]? = some f ∧ f.raw = .ok (some raw) := by
  have hdisplay : 0 ≤ displayHold overlayHoldFrames := le_max_of_le_right (by decide)
  rw [(phase_run hall).detected_iff hdisplay, age_le_iff]
  simp only [← List.map_reverse, List.getElem?_map, Option.map_eq_some_iff, LandingFrame.hit_iff,
    exists_and_left]

/-- With the default holds a mark that is lost at once is shown for 36 frames more. -/
theorem latestDetection_detected_of_lost :
    let lost := (List.range 36).map fun i ↦ (⟨(3 * (i + 1) : ℕ), .ok none, i⟩ : LandingFrame)
    let frames := ⟨0, .ok (TrackerFrame.markAt 100 100 (640, 480)).raw, 0⟩ :: lost
    (run .exact {} (640, 480) 18 0 frames).pipeline.latestDetection.detected = true := by
  refine (latestDetection_detected_iff ?_).mpr ⟨36, by decide, _, _, rfl, rfl⟩
  rintro f (- | ⟨-, hf⟩)
  · exact ⟨⟨rfl, rfl⟩, _, rfl⟩
  · obtain ⟨i, -, rfl⟩ := List.mem_map.mp hf
    refine ⟨⟨rfl, ?_⟩, _, rfl⟩
    simp [wantsFrame]

end LandingWorker

end DroneBridge
