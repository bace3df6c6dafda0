import DroneBridge.Lib.Binary64
import DroneBridge.Lib.OrderedDict
import Mathlib.Data.List.Sort

/-!
# The tracker of the landing mark

A detector finds the mark in a picture or does not. The tracker smooths what it finds: the position
moves towards the new one by a fixed share, after a jump has been cut on each axis, and so do the
size and the corners of the markers. When the mark is not found, the last report is repeated for a
number of frames; after one more miss the tracker forgets everything.

Positions are pixels. Whole numbers of that size are floats, so only the arithmetic of the smoothing
is a parameter (`TrackerFloat`); `TrackerFloat.exact` does not round.
-/

namespace DroneBridge

open Binary64 (roundEven)

/-! ## Directions -/

inductive Horizontal
  | right
  | left
  deriving DecidableEq, Repr

inductive Vertical
  | down
  | up
  deriving DecidableEq, Repr

/-- The sides on which the mark lies; neither of them is `CENTER`. -/
structure Direction where
  x : Option Horizontal
  y : Option Vertical
  deriving DecidableEq, Repr

def Horizontal.text : Horizontal → String
  | right => "RIGHT"
  | left => "LEFT"

def Vertical.text : Vertical → String
  | down => "DOWN"
  | up => "UP"

namespace Direction

def center : Direction := ⟨none, none⟩

/-- The direction as the source has it. -/
def text (d : Direction) : String :=
  let parts := (d.x.map Horizontal.text).toList ++ (d.y.map Vertical.text).toList
  if parts.isEmpty then "CENTER" else " ".intercalate parts

end Direction

/-- A side stays named while the offset is beyond `thOff` on that side. -/
def namedSide {σ : Type*} [DecidableEq σ] (pos neg : σ) (prev : Option σ) (thOn thOff offset : ℤ) :
    Option σ :=
  let on :=
    if prev = some pos then thOff < offset
    else if prev = some neg then offset < -thOff
    else thOn < offset.natAbs
  if on then some (if 0 < offset then pos else neg) else none

/-- The bound that a named side keeps to. -/
def directionOff (threshold hysteresis : ℤ) : ℤ := max (threshold - hysteresis) 6

def directionHysteresis (offsetX offsetY : ℤ) (prev : Direction) (threshold hysteresis : ℤ) :
    Direction where
  x := namedSide .right .left prev.x threshold (directionOff threshold hysteresis) offsetX
  y := namedSide .down .up prev.y threshold (directionOff threshold hysteresis) offsetY

/-! ## Detections -/

/-- A result with the mark in it. The other entries of the dictionary are passed on as they are. -/
structure LandingDetection where
  hPosition : ℤ × ℤ
  hSize : Option (ℤ × ℤ) := none
  offsetX : ℤ := 0
  offsetY : ℤ := 0
  direction : Direction := .center
  similarity : ℚ := 0
  arucoCorners : List (ℤ × ℤ) := []
  arucoMarkers : List (List (ℤ × ℤ)) := []
  arucoMarkersById : OrderedDict ℤ (List (ℤ × ℤ)) := .empty
  arucoVisibleIds : List ℤ := []
  smoothed : Bool := false
  hold : Bool := false
  deriving DecidableEq

/-! ## Smoothing -/

structure TrackerFloat where
  add : ℚ → ℚ → ℚ
  sub : ℚ → ℚ → ℚ
  mul : ℚ → ℚ → ℚ
  /-- `x ** 0.5 > m`. -/
  rootExceeds : ℚ → ℚ → Bool

def TrackerFloat.exact : TrackerFloat where
  add := (· + ·)
  sub := (· - ·)
  mul := (· * ·)
  rootExceeds x m := m < 0 || m * m < x

def castPoint (p : ℤ × ℤ) : ℚ × ℚ := (p.1, p.2)

def roundPoint (p : ℚ × ℚ) : ℤ × ℤ := (roundEven p.1, roundEven p.2)

def roundCorners (corners : List (ℚ × ℚ)) : List (ℤ × ℤ) := corners.map roundPoint

namespace TrackerFloat

variable (F : TrackerFloat)

def emaScalar (prev : Option ℚ) (new alpha : ℚ) : ℚ :=
  match prev with
  | none => new
  | some prev => F.add (F.mul prev (F.sub 1 alpha)) (F.mul new alpha)

def emaPoint (prev : Option (ℚ × ℚ)) (new : ℚ × ℚ) (alpha : ℚ) : ℚ × ℚ :=
  match prev with
  | none => new
  | some prev => (F.emaScalar (some prev.1) new.1 alpha, F.emaScalar (some prev.2) new.2 alpha)

def emaCorners (prev : Option (List (ℚ × ℚ))) (new : List (ℤ × ℤ)) (alpha : ℚ) : List (ℚ × ℚ) :=
  let prev := prev.getD []
  let newF := new.map castPoint
  if new.isEmpty then prev
  else if prev.isEmpty || prev.length != newF.length then newF
  else List.zipWith (fun p n ↦ F.emaPoint (some p) n alpha) prev newF

/-- A jump of more than `maxJump` is cut on each axis. -/
def limitJump (prev : Option (ℚ × ℚ)) (new : ℚ × ℚ) (maxJump : ℚ) : ℚ × ℚ :=
  match prev with
  | none => new
  | some prev =>
    let dx := F.sub new.1 prev.1
    let dy := F.sub new.2 prev.2
    if F.rootExceeds (F.add (F.mul dx dx) (F.mul dy dy)) maxJump then
      (F.add prev.1 (max (-maxJump) (min dx maxJump)),
        F.add prev.2 (max (-maxJump) (min dy maxJump)))
    else new

end TrackerFloat

/-! ## The tracker -/

structure TrackerConf where
  emaAlpha : ℚ := 28 / 100
  holdFrames : ℤ := 18
  maxJumpFrac : ℚ := 14 / 100
  directionThreshold : ℤ := 20
  directionHysteresis : ℤ := 15

/-- The number of misses that a report outlives. -/
def TrackerConf.hold (c : TrackerConf) : ℤ := max c.holdFrames 1

/-- The longest move on an axis before smoothing. -/
def TrackerConf.maxJump (c : TrackerConf) (F : TrackerFloat) (outputSize : ℤ × ℤ) : ℚ :=
  F.mul (max (max outputSize.1 outputSize.2) 1 : ℤ) c.maxJumpFrac

/-- What the tracker keeps. As it starts it has nothing. -/
structure SmoothTracker where
  smooth : Option LandingDetection := none
  posF : Option (ℚ × ℚ) := none
  sizeF : Option (ℚ × ℚ) := none
  cornersF : Option (List (ℚ × ℚ)) := none
  markersByIdF : OrderedDict ℤ (List (ℚ × ℚ)) := .empty
  direction : Direction := .center
  missStreak : ℕ := 0
  deriving DecidableEq

namespace SmoothTracker

def reset : SmoothTracker := {}

variable (F : TrackerFloat) (c : TrackerConf) (t : SmoothTracker) (raw : LandingDetection)
  (outputSize : ℤ × ℤ)

def nextPos : ℚ × ℚ :=
  F.emaPoint t.posF (F.limitJump t.posF (castPoint raw.hPosition) (c.maxJump F outputSize))
    c.emaAlpha

def nextSize : ℚ × ℚ := F.emaPoint t.sizeF (castPoint (raw.hSize.getD (0, 0))) c.emaAlpha

def nextCorners : List (ℚ × ℚ) := F.emaCorners t.cornersF raw.arucoCorners c.emaAlpha

/-- The markers of the picture are added to those of the pictures before. -/
def nextMarkers : OrderedDict ℤ (List (ℚ × ℚ)) :=
  raw.arucoMarkersById.entries.foldl
    (fun d e ↦ d.insert e.1 (F.emaCorners (d.find? e.1) e.2 c.emaAlpha)) t.markersByIdF

def nextPosition : ℤ × ℤ := roundPoint (nextPos F c t raw outputSize)

/-- The offset from the middle of the picture, to the right and upwards. -/
def nextOffset : ℤ × ℤ :=
  ((nextPosition F c t raw outputSize).1 - outputSize.1 / 2,
    outputSize.2 / 2 - (nextPosition F c t raw outputSize).2)

def nextDirection : Direction :=
  directionHysteresis (nextOffset F c t raw outputSize).1 (nextOffset F c t raw outputSize).2
    t.direction c.directionThreshold c.directionHysteresis

/-- The report on a picture with the mark in it. -/
def report : LandingDetection :=
  let corners := nextCorners F c t raw
  let markers := nextMarkers F c t raw
  let size := roundPoint (nextSize F c t raw)
  let byId := markers.map roundCorners
  { raw with
    hPosition := nextPosition F c t raw outputSize
    hSize := some (max 1 size.1, max 1 size.2)
    offsetX := (nextOffset F c t raw outputSize).1
    offsetY := (nextOffset F c t raw outputSize).2
    direction := nextDirection F c t raw outputSize
    smoothed := true
    arucoCorners := if corners.isEmpty then raw.arucoCorners else roundCorners corners
    arucoMarkersById := if markers.entries.isEmpty then raw.arucoMarkersById else byId
    arucoMarkers := if markers.entries.isEmpty then raw.arucoMarkers else byId.values
    arucoVisibleIds :=
      if markers.entries.isEmpty then raw.arucoVisibleIds else byId.keys.insertionSort (· ≤ ·) }

/-- A picture with the mark in it. -/
def follow : SmoothTracker where
  smooth := some (report F c t raw outputSize)
  posF := some (nextPos F c t raw outputSize)
  sizeF := some (nextSize F c t raw)
  cornersF := some (nextCorners F c t raw)
  markersByIdF := nextMarkers F c t raw
  direction := nextDirection F c t raw outputSize
  missStreak := 0

/-- A picture without the mark. -/
def miss : SmoothTracker × Option LandingDetection :=
  let t := { t with missStreak := t.missStreak + 1 }
  if t.smooth.isSome ∧ t.missStreak ≤ c.hold then
    (t, t.smooth.map fun held ↦ { held with hold := true })
  else if c.hold < t.missStreak then (reset, none)
  else (t, none)

def accept : Option LandingDetection → SmoothTracker × Option LandingDetection
  | none => miss c t
  | some raw => (follow F c t raw outputSize, some (report F c t raw outputSize))

end SmoothTracker

/-! ## Runs -/

structure TrackerFrame where
  raw : Option LandingDetection
  outputSize : ℤ × ℤ

/-- A frame with a mark of 40 by 40 pixels in it. -/
def TrackerFrame.markAt (x y : ℤ) (outputSize : ℤ × ℤ) : TrackerFrame :=
  ⟨some { hPosition := (x, y), hSize := some (40, 40) }, outputSize⟩

namespace SmoothTracker

variable (F : TrackerFloat) (c : TrackerConf)

def after (frames : List TrackerFrame) : SmoothTracker :=
  frames.foldl (fun t f ↦ (t.accept F c f.outputSize f.raw).1) reset

theorem after_concat (frames : List TrackerFrame) (f : TrackerFrame) :
    after F c (frames ++ [f]) = ((after F c frames).accept F c f.outputSize f.raw).1 := by
  rw [after, after, List.foldl_append, List.foldl_cons, List.foldl_nil]

variable {F c} {t t' : SmoothTracker} {d : Option LandingDetection}

/-- A miss repeats the last report, forgets everything, or has nothing to repeat. -/
theorem miss_cases (h : miss c t = (t', d)) :
    (∃ held, t.smooth = some held ∧ (t.missStreak + 1 : ℤ) ≤ c.hold ∧
      t' = { t with missStreak := t.missStreak + 1 } ∧ d = some { held with hold := true }) ∨
    (c.hold < (t.missStreak + 1 : ℤ) ∧ t' = reset ∧ d = none) ∨
    (t.smooth = none ∧ (t.missStreak + 1 : ℤ) ≤ c.hold ∧
      t' = { t with missStreak := t.missStreak + 1 } ∧ d = none) := by
  rw [miss] at h
  split_ifs at h with hhold hreset
  · obtain ⟨hsome, hle⟩ := hhold
    obtain ⟨held, hheld⟩ := Option.isSome_iff_exists.mp hsome
    obtain ⟨rfl, rfl⟩ := Prod.mk.inj h
    exact .inl ⟨held, hheld, hle, rfl, congrArg (Option.map _) hheld⟩
  · cases h
    exact .inr (.inl ⟨hreset, rfl, rfl⟩)
  · cases h
    have hle : ((t.missStreak + 1 : ℕ) : ℤ) ≤ c.hold := not_lt.mp hreset
    have hnone : t.smooth = none := Option.not_isSome_iff_eq_none.mp fun hsome ↦ hhold ⟨hsome, hle⟩
    exact .inr (.inr ⟨hnone, hle, rfl, rfl⟩)

/-- A miss beyond the hold is a reset; any other one is only counted. -/
theorem miss_fst : (miss c t).1 =
    if c.hold < (t.missStreak + 1 : ℤ) then reset
    else { t with missStreak := t.missStreak + 1 } := by
  rcases miss_cases (c := c) (t := t) (Prod.eta _).symm with
    ⟨held, -, hle, heq, -⟩ | ⟨hlt, heq, -⟩ | ⟨-, hle, heq, -⟩
  · rw [heq, if_neg (not_lt.mpr hle)]
  · rw [heq, if_pos hlt]
  · rw [heq, if_neg (not_lt.mpr hle)]

theorem miss_of_none (h : t.smooth = none) :
    (miss c t).1.smooth = none ∧ (miss c t).2 = none := by
  rcases miss_cases (c := c) (t := t) (Prod.eta _).symm with
    ⟨held, hheld, -⟩ | ⟨-, heq, hd⟩ | ⟨-, -, heq, hd⟩
  · cases h.symm.trans hheld
  · exact ⟨by rw [heq]; rfl, hd⟩
  · exact ⟨by rw [heq]; exact h, hd⟩

theorem miss_of_le (h : t.smooth.isSome = true) (hle : (t.missStreak + 1 : ℤ) ≤ c.hold) :
    (miss c t).1 = { t with missStreak := t.missStreak + 1 } ∧ (miss c t).2.isSome = true := by
  rcases miss_cases (c := c) (t := t) (Prod.eta _).symm with
    ⟨held, -, -, heq, hd⟩ | ⟨hlt, -, -⟩ | ⟨hnone, -, -, -⟩
  · exact ⟨heq, by rw [hd]; rfl⟩
  · exact absurd hle (not_le.mpr hlt)
  · rw [hnone] at h
    cases h

theorem miss_of_lt (hlt : c.hold < (t.missStreak + 1 : ℤ)) : miss c t = (reset, none) := by
  rcases miss_cases (c := c) (t := t) (Prod.eta _).symm with
    ⟨held, -, hle, -, -⟩ | ⟨-, heq, hd⟩ | ⟨-, hle, -, -⟩
  · exact absurd hle (not_le.mpr hlt)
  · exact Prod.ext heq hd
  · exact absurd hle (not_le.mpr hlt)

/-- Every report is the one that is kept, marked or not as held. -/
theorem smooth_of_report {F : TrackerFloat} {raw : Option LandingDetection} {outputSize : ℤ × ℤ}
    {d : LandingDetection} (h : (t.accept F c outputSize raw).2 = some d) :
    ∃ kept, (t.accept F c outputSize raw).1.smooth = some kept ∧
      (d = kept ∨ d = { kept with hold := true }) := by
  cases raw with
  | some raw => exact ⟨d, h, .inl rfl⟩
  | none =>
    rcases miss_cases (c := c) (t := t) (Prod.eta _).symm with
      ⟨held, hheld, -, heq, hd⟩ | ⟨-, -, hd⟩ | ⟨-, -, -, hd⟩
    · refine ⟨held, ?_, .inr (Option.some.inj (h.symm.trans hd))⟩
      rw [accept, heq]
      exact hheld
    · cases h.symm.trans hd
    · cases h.symm.trans hd

end SmoothTracker

/-! ### What has been seen

A run of misses that is longer than the hold is a reset. What has been seen since the last one can
be told from the results of the detector alone. -/

structure Sightings where
  streak : ℕ := 0
  seen : List LandingDetection := []

def Sightings.step (hold : ℤ) (g : Sightings) : Option LandingDetection → Sightings
  | none => if hold < (g.streak + 1 : ℤ) then {} else { g with streak := g.streak + 1 }
  | some raw => ⟨0, g.seen ++ [raw]⟩

def sightings (hold : ℤ) (raws : List (Option LandingDetection)) : Sightings :=
  raws.foldl (Sightings.step hold) {}

theorem sightings_concat (hold : ℤ) (raws : List (Option LandingDetection))
    (raw : Option LandingDetection) :
    sightings hold (raws ++ [raw]) = (sightings hold raws).step hold raw := by
  rw [sightings, sightings, List.foldl_append, List.foldl_cons, List.foldl_nil]

namespace SmoothTracker

variable {F : TrackerFloat} {c : TrackerConf}

/-- What the frames have shown since the last reset. -/
def seen (c : TrackerConf) (frames : List TrackerFrame) : List LandingDetection :=
  (sightings c.hold (frames.map (·.raw))).seen

theorem missStreak_after (frames : List TrackerFrame) :
    (after F c frames).missStreak = (sightings c.hold (frames.map (·.raw))).streak := by
  induction frames using List.reverseRecOn with
  | nil => rfl
  | append_singleton frames f ih =>
    rw [after_concat, List.map_append, List.map_singleton, sightings_concat, Sightings.step.eq_def,
      ← ih]
    cases hraw : f.raw with
    | some raw => rfl
    | none =>
      rw [accept, miss_fst]
      split_ifs <;> rfl

/-- What is known of the tracker and of what it has seen holds after a run, if each hit of the run
keeps it, a miss within the hold keeps it, and a reset leads to it. -/
theorem after_induction {I : List LandingDetection → SmoothTracker → Prop}
    {frames : List TrackerFrame} (hreset : I [] reset)
    (hmiss : ∀ seen t, I seen t → I seen { t with missStreak := t.missStreak + 1 })
    (hhit : ∀ f ∈ frames, ∀ raw, f.raw = some raw →
      ∀ seen t, I seen t → I (seen ++ [raw]) (follow F c t raw f.outputSize)) :
    I (seen c frames) (after F c frames) := by
  induction frames using List.reverseRecOn with
  | nil => exact hreset
  | append_singleton frames f ih =>
    have hbefore := ih fun g hg ↦ hhit g (List.mem_append_left _ hg)
    have hlast := hhit f (List.mem_append_right _ (List.mem_singleton_self f))
    rw [seen, after_concat, List.map_append, List.map_singleton, sightings_concat,
      Sightings.step.eq_def, ← missStreak_after (F := F)]
    cases hraw : f.raw with
    | some raw => exact hlast raw hraw _ _ hbefore
    | none =>
      rw [accept, miss_fst]
      dsimp only
      split_ifs
      · exact hreset
      · exact hmiss _ _ hbefore

end SmoothTracker

end DroneBridge
