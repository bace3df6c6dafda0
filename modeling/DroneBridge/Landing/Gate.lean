import DroneBridge.Landing.Feed
import DroneBridge.Landing.Worker
import Mathlib.Tactic.Positivity

/-!
# The gate of the stream

The capture loop hands every frame to the gate, which gives back the frame or an overlay. Feeding
the worker is left to the gate. With a timeout of zero it asks the pipeline for the latest overlay,
and that call submits the frame when a processor wants it. With a timeout it asks only for a result
that is near the frame, and that call submits nothing: no frame ever reaches the worker.

The worker moves while the loop does, so the latest result is part of what a turn of the loop finds.
-/

namespace DroneBridge

open Binary64 (roundEven)

/-! ## The pipeline -/

structure GateConf where
  detectionEnabled : Bool := true
  overlayEnabled : Bool := true
  detectFrameSkip : ℤ := 3
  overlayFrameSkip : ℤ := 5
  gateTimeoutMs : ℤ := 0
  framerate : ℤ := 30

/-- The processors, by the frames they take. -/
def buildProcessorList (c : GateConf) (detectionOn : Bool) : List ℤ :=
  (if detectionOn then [max c.detectFrameSkip 1] else []) ++
    if c.overlayEnabled then [max c.overlayFrameSkip 1] else []

/-- The processors of the pipeline, if there is one; the preparation of the detector may fail. -/
def buildPipeline (c : GateConf) (prepared : Bool) : Option (List ℤ) :=
  if !c.detectionEnabled && !c.overlayEnabled then none
  else
    let processors := buildProcessorList c (c.detectionEnabled && prepared)
    if processors.isEmpty then none else some processors

def wantsFeed (processors : List ℤ) (frameID : ℤ) : Bool := processors.any (wantsFrame · frameID)

/-- What a call of the gate does: the frame that goes on to the encoder, and the one that was
submitted. -/
structure Gated (ι : Type*) where
  shown : ι
  submitted : Option (ℤ × ι)

section Gate

variable {ι : Type*}

def resultForStream (latest : Option (ProcessResult ι)) (frameID maxFrameSkew : ℤ) :
    Option (ProcessResult ι) :=
  latest.filter fun r ↦
    r.frameID = frameID || (0 < maxFrameSkew && (r.frameID - frameID).natAbs ≤ maxFrameSkew)

def applyForStream (c : GateConf) (processors : List ℤ) (latest : Option (ProcessResult ι))
    (frameID : ℤ) (frame : ι) : Gated ι where
  shown := if c.overlayEnabled then (latest.bind (·.overlayFrame)).getD frame else frame
  submitted := if wantsFeed processors frameID then some (frameID, frame) else none

/-! ## The gate -/

def GateConf.timeoutSec (c : GateConf) : ℚ := (max c.gateTimeoutMs 0 : ℤ) / 1000

def resolve (c : GateConf) (processors : List ℤ) (latest : Option (ProcessResult ι))
    (frameID : ℤ) (frame : ι) : Gated ι :=
  if 0 < c.timeoutSec then
    let fps := max c.framerate 1
    let skew := max 1 (roundEven (c.timeoutSec * fps))
    ⟨((resultForStream latest frameID skew).bind (·.overlayFrame)).getD frame, none⟩
  else applyForStream c processors latest frameID frame

theorem GateConf.timeoutSec_pos_iff {c : GateConf} : 0 < c.timeoutSec ↔ 0 < c.gateTimeoutMs := by
  rw [timeoutSec, div_pos_iff_of_pos_right (by norm_num), Int.cast_pos, lt_max_iff]
  simp

theorem resolve_submitted (c : GateConf) (processors : List ℤ) (latest : Option (ProcessResult ι))
    (frameID : ℤ) (frame : ι) :
    (resolve c processors latest frameID frame).submitted =
      if 0 < c.gateTimeoutMs then none
      else if wantsFeed processors frameID then some (frameID, frame) else none := by
  rw [resolve]
  by_cases hms : 0 < c.gateTimeoutMs
  · rw [if_pos (GateConf.timeoutSec_pos_iff.mpr hms), if_pos hms]
  · rw [if_neg (mt GateConf.timeoutSec_pos_iff.mp hms), if_neg hms]
    rfl

/-! ## The capture loop -/

/-- What a turn of the loop finds. -/
inductive CaptureTurn (ι : Type*)
  | encoderFull
  /-- The last frame was taken too short a time ago. -/
  | early
  | noFrame
  | frame (image : ι) (latest : Option (ProcessResult ι))

structure CaptureLoop (ι : Type*) where
  frameCount : ℕ := 0
  encoded : List ι := []
  captured : List (ℤ × ι) := []
  submitted : List (ℤ × ι) := []

namespace CaptureLoop

def turn (c : GateConf) (processors : List ℤ) (s : CaptureLoop ι) : CaptureTurn ι → CaptureLoop ι
  | .frame image latest =>
    let gated := resolve c processors latest s.frameCount image
    { frameCount := s.frameCount + 1
      encoded := s.encoded ++ [gated.shown]
      captured := s.captured ++ [((s.frameCount : ℤ), image)]
      submitted := s.submitted ++ gated.submitted.toList }
  | _ => s

def run (c : GateConf) (processors : List ℤ) (turns : List (CaptureTurn ι)) : CaptureLoop ι :=
  turns.foldl (turn c processors) {}

variable {c : GateConf} {processors : List ℤ} {turns : List (CaptureTurn ι)}

theorem run_concat (turns : List (CaptureTurn ι)) (t : CaptureTurn ι) :
    run c processors (turns ++ [t]) = (run c processors turns).turn c processors t := by
  rw [run, run, List.foldl_append, List.foldl_cons, List.foldl_nil]

theorem captured_ids (turns : List (CaptureTurn ι)) :
    (run c processors turns).captured.map Prod.fst =
      (List.range (run c processors turns).frameCount).map (↑) := by
  induction turns using List.reverseRecOn with
  | nil => rfl
  | append_singleton turns t ih =>
    rw [run_concat]
    cases t with
    | frame image latest =>
      rw [turn, List.map_append, ih, List.range_succ, List.map_append]
      rfl
    | _ => exact ih

theorem submitted_eq (turns : List (CaptureTurn ι)) :
    (run c processors turns).submitted =
      if 0 < c.gateTimeoutMs then []
      else (run c processors turns).captured.filter fun f ↦ wantsFeed processors f.1 := by
  induction turns using List.reverseRecOn with
  | nil => simp [run]
  | append_singleton turns t ih =>
    rw [run_concat]
    cases t with
    | frame image latest =>
      rw [turn]
      dsimp only
      rw [ih, resolve_submitted, List.filter_append]
      split_ifs with hms hwants
      · rfl
      · simp [hwants]
      · simp [hwants]
    | _ => exact ih

theorem exists_first (hne : (run c processors turns).captured ≠ []) :
    ∃ f ∈ (run c processors turns).captured, f.1 = 0 := by
  have hids : (run c processors turns).captured.map Prod.fst = _ := captured_ids turns
  have hlength := congrArg List.length hids
  rw [List.length_map, List.length_map, List.length_range] at hlength
  have hpos : 0 < (run c processors turns).frameCount := hlength ▸ List.length_pos_iff.mpr hne
  refine List.mem_map.mp ?_
  rw [hids]
  exact List.mem_map.mpr ⟨0, List.mem_range.mpr hpos, rfl⟩

theorem wantsFeed_zero (hne : processors ≠ []) : wantsFeed processors 0 = true := by
  obtain ⟨skip, hskip⟩ := List.exists_mem_of_ne_nil _ hne
  exact List.any_eq_true.mpr ⟨skip, hskip, by simp [wantsFrame]⟩

theorem buildPipeline_ne_nil {prepared : Bool} (h : buildPipeline c prepared = some processors) :
    processors ≠ [] := by
  rw [buildPipeline] at h
  dsimp only at h
  split_ifs at h with hoff hempty
  cases h
  simpa using hempty

/-- Every frame that a processor wants is submitted exactly when the gate has no timeout or nothing
is captured. -/
theorem wanted_submitted_iff {prepared : Bool} (h : buildPipeline c prepared = some processors)
    (turns : List (CaptureTurn ι)) :
    (∀ f ∈ (run c processors turns).captured,
        wantsFeed processors f.1 = true → f ∈ (run c processors turns).submitted) ↔
      c.gateTimeoutMs ≤ 0 ∨ (run c processors turns).captured = [] := by
  rw [submitted_eq]
  constructor
  · intro hall
    by_contra hnot
    push Not at hnot
    obtain ⟨hms, hcaptured⟩ := hnot
    obtain ⟨f, hf, hfirst⟩ := exists_first hcaptured
    have hmem := hall f hf (hfirst ▸ wantsFeed_zero (buildPipeline_ne_nil h))
    rw [if_pos hms] at hmem
    cases hmem
  · rintro (hms | hnil)
    · rw [if_neg (not_lt.mpr hms)]
      intro f hf hwants
      exact List.mem_filter.mpr ⟨hf, hwants⟩
    · simp [hnil]

theorem wanted_submitted_of_no_timeout :
    ∃ processors, buildPipeline {} true = some processors ∧
      ∀ f ∈ (run {} processors [.frame () none, .early, .frame () none]).captured,
        wantsFeed processors f.1 = true →
          f ∈ (run {} processors [.frame () none, .early, .frame () none]).submitted := by
  have hbuild : buildPipeline {} true = some [3, 5] := rfl
  exact ⟨[3, 5], hbuild, (wanted_submitted_iff hbuild _).mpr (.inl (by decide))⟩

/-- With a timeout of 50 ms nothing is submitted. -/
theorem timeout_submits_nothing :
    let c : GateConf := { gateTimeoutMs := 50 }
    ∃ processors, buildPipeline c true = some processors ∧
      ∃ f ∈ (run c processors [.frame () none]).captured, wantsFeed processors f.1 = true ∧
        (run c processors [.frame () none]).submitted = [] :=
  ⟨_, rfl, (0, ()), by decide, by decide, by decide +kernel⟩

end CaptureLoop

end Gate

end DroneBridge
