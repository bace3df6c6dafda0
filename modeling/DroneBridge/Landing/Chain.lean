import DroneBridge.Lib.Clock
import DroneBridge.Lib.Machine
import Mathlib.Data.Rat.Defs
import Mathlib.Algebra.Order.Ring.Unbundled.Rat

/-!
# The landing chain

Three parties pass a landing detection on. The worker of the processing pipeline stores the result
of a frame, or keeps an earlier hit for a few misses; the stream loop writes the stored result to a
telemetry file every 0.1 s and stamps it; the MAVLink bridge reads the file and publishes a
`LANDING_TARGET` unless the stamp is more than 2 s old.

The stamp is the time of the write. So the bridge's check bounds the age of the file, and the age
of the detection only as far as the writer writes nothing old. When frames stop coming, the worker
stores nothing, and the writer goes on stamping the last hit as new.

Instants are nanoseconds. The model keeps, as ghosts, when the worker stored each result.
-/

namespace DroneBridge

/-! ## The worker -/

/-- The result of processing a frame. -/
structure Detection where
  detected : Bool
  offsetX : Option ℚ
  offsetY : Option ℚ
  direction : Option String
  similarity : Option ℚ
  deriving DecidableEq, Repr

/-- No hit, as `{"detected": False}`. -/
def Detection.none : Detection := ⟨false, .none, .none, .none, .none⟩

/-- What the pipeline shares with the stream loop. -/
structure ProcessingPipeline where
  latestDetection : Detection
  detectionsCount : ℕ
  displayMiss : ℕ
  /-- Ghost: when the latest detection was stored. -/
  storedAt : ℕ
  deriving DecidableEq, Repr

/-- How many misses an earlier hit outlives, from the configured `overlay_hold_frames`. -/
def displayHold (overlayHoldFrames : ℤ) : ℤ := max overlayHoldFrames 4

/-- The critical section that ends the processing of a frame. -/
def ProcessingPipeline.store (p : ProcessingPipeline) (hold : ℤ) (detection : Detection)
    (count now : ℕ) : ProcessingPipeline :=
  if detection.detected then
    { p with
      latestDetection := detection, detectionsCount := count, displayMiss := 0, storedAt := now }
  else if p.latestDetection.detected ∧ p.displayMiss < hold then
    { p with detectionsCount := count, displayMiss := p.displayMiss + 1 }
  else
    { latestDetection := detection, detectionsCount := count, displayMiss := p.displayMiss + 1,
      storedAt := now }

/-! ## The telemetry file -/

structure LandingTelemetry where
  cameraID : ℤ
  detected : Bool
  offsetX : Option ℚ
  offsetY : Option ℚ
  direction : Option String
  similarity : Option ℚ
  detectionsCount : ℕ
  updatedAt : ℕ
  /-- The age the reader found; not part of the file. -/
  age : ℤ
  deriving DecidableEq, Repr

/-- The content `write_landing_telemetry` gives the file. -/
def landingTelemetry (cameraID : ℤ) (det : Detection) (count updatedAt : ℕ) : LandingTelemetry where
  cameraID := cameraID
  detected := det.detected
  offsetX := det.offsetX
  offsetY := det.offsetY
  direction := det.direction
  similarity := det.similarity
  detectionsCount := count
  updatedAt := updatedAt
  age := 0

/-- The telemetry in the file, or `none` when there is no file or it is stale. -/
def readLandingTelemetry (file : Option LandingTelemetry) (maxAge : ℤ) (now : ℕ) :
    Option LandingTelemetry :=
  match file with
  | .none => .none
  | .some t =>
    if 0 < t.updatedAt then
      let age := Clock.sub now t.updatedAt
      if 0 < maxAge ∧ maxAge < age then .none else .some { t with age := age }
    else .some t

/-! ## The bridge -/

/-- The `LANDING_TARGET` message; its constant fields are left out. -/
structure LandingTarget where
  timeUsec : ℕ
  angleX : ℚ
  angleY : ℚ
  size : ℚ
  deriving DecidableEq, Repr

def landingTargetFromTelemetry (lt : LandingTelemetry) (now : ℕ) : LandingTarget where
  timeUsec := now / 1000
  angleX := lt.offsetX.getD 0
  angleY := lt.offsetY.getD 0
  size :=
    match lt.similarity with
    | .some s => if 0 < s then min 1 s else 1 / 4
    | .none => 1 / 4

/-! ## Runs -/

structure LandingConf where
  cameraID : ℤ
  overlayHoldFrames : ℤ
  deriving DecidableEq, Repr

/-- What the stream loop has read and is about to write. -/
structure PendingWrite where
  detection : Detection
  count : ℕ
  /-- Ghost: when the worker stored the detection. -/
  storedAt : ℕ
  deriving DecidableEq, Repr

/-- A published message: when, and when the detection it carries was stored. -/
structure Publication where
  time : ℕ
  target : LandingTarget
  storedAt : ℕ
  deriving DecidableEq, Repr

structure LandingChain where
  pipeline : ProcessingPipeline
  /-- The write the stream loop is in the middle of. -/
  pending : Option PendingWrite
  lastLandingWrite : ℕ
  /-- The file, with the ghost of when its detection was stored. -/
  file : Option (LandingTelemetry × ℕ)
  clock : ℕ
  /-- Ghost: everything published so far. -/
  published : List Publication
  deriving DecidableEq, Repr

def writerPeriod : ℤ := 100 * Clock.millisecond

def telemetryMaxAge : ℤ := 2 * Clock.second

inductive LandingEvent
  | store (detection : Detection) (count now : ℕ)
  | poll (now : ℕ)
  /-- The stream loop writes the file; an exception on the way is swallowed. -/
  | write (now : ℕ) (ok : Bool)
  | bridge (now : ℕ)
  deriving DecidableEq, Repr

namespace LandingChain

/-- The chain as it starts: nothing detected and no file. -/
def start (now : ℕ) : LandingChain where
  pipeline := ⟨.none, 0, 0, now⟩
  pending := .none
  lastLandingWrite := 0
  file := .none
  clock := now
  published := []

variable (s : LandingChain)

/-- One turn of the stream loop up to the write. -/
def poll (now : ℕ) : LandingChain :=
  if writerPeriod ≤ Clock.sub now s.lastLandingWrite then
    { s with
      pending := .some ⟨s.pipeline.latestDetection, s.pipeline.detectionsCount, s.pipeline.storedAt⟩
      lastLandingWrite := now }
  else s

def write (cfg : LandingConf) (w : PendingWrite) (now : ℕ) (ok : Bool) : LandingChain :=
  { s with
    pending := .none
    file := if ok then .some (landingTelemetry cfg.cameraID w.detection w.count now, w.storedAt)
      else s.file }

def bridge (now : ℕ) : LandingChain :=
  match s.file with
  | .none => s
  | .some (t, storedAt) =>
    match readLandingTelemetry (.some t) telemetryMaxAge now with
    | .none => s
    | .some lt =>
      if lt.detected then
        { s with published := s.published ++ [⟨now, landingTargetFromTelemetry lt now, storedAt⟩] }
      else s

end LandingChain

/-- The parties share a clock that never goes back; any of them may fail to move for any time. -/
def landingMachine (cfg : LandingConf) : Machine LandingChain LandingEvent where
  step s
    | .store detection count now =>
      if s.clock ≤ now then
        some { s with
          pipeline := s.pipeline.store (displayHold cfg.overlayHoldFrames) detection count now
          clock := now }
      else none
    | .poll now =>
      if s.clock ≤ now ∧ s.pending = .none then some { s.poll now with clock := now } else none
    | .write now ok =>
      match s.pending with
      | .none => none
      | .some w => if s.clock ≤ now then some { s.write cfg w now ok with clock := now } else none
    | .bridge now => if s.clock ≤ now then some { s.bridge now with clock := now } else none

/-! ## The age of what is published -/

/-- The step does not stamp an old hit as new: a hit is written within one period of being
stored. -/
def LandingChain.writesFresh (s : LandingChain) : LandingEvent → Bool
  | .write now true =>
    match s.pending with
    | .some w => !w.detection.detected || (now : ℤ) ≤ w.storedAt + writerPeriod
    | .none => true
  | _ => true

/-- What holds while every write is fresh. -/
structure LandingInv (s : LandingChain) : Prop where
  clock : 0 < s.clock
  stamp : ∀ t storedAt, s.file = .some (t, storedAt) → 0 < t.updatedAt
  file : ∀ t storedAt, s.file = .some (t, storedAt) → t.detected = true →
    (t.updatedAt : ℤ) ≤ storedAt + writerPeriod
  published : ∀ p ∈ s.published, (p.time : ℤ) ≤ p.storedAt + writerPeriod + telemetryMaxAge

section Steps

variable {s s' : LandingChain} {cfg : LandingConf}

theorem readLandingTelemetry_eq_some {t lt : LandingTelemetry} {maxAge : ℤ} {now : ℕ}
    (hmax : 0 < maxAge) (hstamp : 0 < t.updatedAt)
    (hread : readLandingTelemetry (.some t) maxAge now = .some lt) :
    lt.detected = t.detected ∧ (now : ℤ) ≤ t.updatedAt + maxAge := by
  rw [readLandingTelemetry] at hread
  dsimp only at hread
  rw [if_pos hstamp] at hread
  split at hread
  case isTrue => exact absurd hread (by simp)
  case isFalse hage =>
    rw [← Option.some.inj hread]
    rw [Clock.sub] at hage
    exact ⟨rfl, by omega⟩

theorem bridge_published {t : LandingTelemetry} {storedAt now : ℕ}
    (hfile : s.file = .some (t, storedAt)) (hstamp : 0 < t.updatedAt) (hdet : t.detected = true)
    (hage : (now : ℤ) ≤ t.updatedAt + telemetryMaxAge) :
    ∃ target, (s.bridge now).published = s.published ++ [⟨now, target, storedAt⟩] := by
  have hread : readLandingTelemetry (.some t) telemetryMaxAge now =
      .some { t with age := Clock.sub now t.updatedAt } := by
    rw [readLandingTelemetry]
    dsimp only
    rw [if_pos hstamp, if_neg (by rw [Clock.sub]; omega)]
  rw [LandingChain.bridge, hfile]
  dsimp only
  rw [hread]
  dsimp only
  rw [if_pos hdet]
  exact ⟨_, rfl⟩

theorem LandingInv.bridge (h : LandingInv s) (now : ℕ) :
    ∀ p ∈ (s.bridge now).published,
      (p.time : ℤ) ≤ p.storedAt + writerPeriod + telemetryMaxAge := by
  intro p hp
  rw [LandingChain.bridge] at hp
  split at hp
  case h_1 => exact h.published p hp
  case h_2 t storedAt hfile =>
    split at hp
    case h_1 => exact h.published p hp
    case h_2 lt hread =>
      split at hp
      case isFalse => exact h.published p hp
      case isTrue hdet =>
        rcases List.mem_append.mp hp with hp | hp
        · exact h.published p hp
        · obtain ⟨hsame, hage⟩ :=
            readLandingTelemetry_eq_some (by decide) (h.stamp t storedAt hfile) hread
          have hfresh := h.file t storedAt hfile (by rw [← hsame]; exact hdet)
          rw [List.mem_singleton.mp hp]
          dsimp only
          omega

theorem bridge_file (now : ℕ) : (s.bridge now).file = s.file := by
  rw [LandingChain.bridge]
  split
  · rfl
  · split
    · rfl
    · split <;> rfl

theorem LandingInv.write (h : LandingInv s) {w : PendingWrite} (hw : s.pending = .some w)
    {now : ℕ} (hnow : s.clock ≤ now) {ok : Bool} (hfresh : s.writesFresh (.write now ok) = true) :
    LandingInv { s.write cfg w now ok with clock := now } := by
  have hpos : 0 < now := Nat.lt_of_lt_of_le h.clock hnow
  rcases ok with _ | _
  · exact ⟨hpos, h.stamp, h.file, h.published⟩
  · rw [LandingChain.writesFresh, hw] at hfresh
    refine ⟨hpos, ?_, ?_, h.published⟩
    · rintro t storedAt ⟨⟩
      exact hpos
    · rintro t storedAt ⟨⟩ hdet
      have hhit : w.detection.detected = true := hdet
      dsimp only at hfresh
      rw [hhit, Bool.not_true, Bool.false_or] at hfresh
      exact of_decide_eq_true hfresh

theorem LandingInv.step (h : LandingInv s) {e : LandingEvent} (hfresh : s.writesFresh e = true)
    (hstep : (landingMachine cfg).step s e = some s') : LandingInv s' := by
  rcases e with ⟨detection, count, now⟩ | now | ⟨now, ok⟩ | now <;>
    dsimp only [landingMachine] at hstep
  case store =>
    obtain ⟨hnow, hs⟩ := Option.ite_none_right_eq_some.mp hstep
    rw [← Option.some.inj hs]
    exact ⟨Nat.lt_of_lt_of_le h.clock hnow, h.stamp, h.file, h.published⟩
  case poll =>
    obtain ⟨⟨hnow, -⟩, hs⟩ := Option.ite_none_right_eq_some.mp hstep
    rw [← Option.some.inj hs, LandingChain.poll]
    split <;> exact ⟨Nat.lt_of_lt_of_le h.clock hnow, h.stamp, h.file, h.published⟩
  case write =>
    split at hstep
    case h_1 => exact absurd hstep (by simp)
    case h_2 w hw =>
      obtain ⟨hnow, hs⟩ := Option.ite_none_right_eq_some.mp hstep
      rw [← Option.some.inj hs]
      exact h.write hw hnow hfresh
  case bridge =>
    obtain ⟨hnow, hs⟩ := Option.ite_none_right_eq_some.mp hstep
    rw [← Option.some.inj hs]
    refine ⟨Nat.lt_of_lt_of_le h.clock hnow, ?_, ?_, h.bridge now⟩
    · dsimp only
      rw [bridge_file]
      exact h.stamp
    · dsimp only
      rw [bridge_file]
      exact h.file

theorem LandingInv.of_run {now : ℕ} (hnow : 0 < now) {es : List LandingEvent}
    (hfresh : (landingMachine cfg).Along (fun s e ↦ s.writesFresh e = true) (.start now) es)
    (hrun : (landingMachine cfg).run (.start now) es = some s) : LandingInv s := by
  have h₀ : LandingInv (.start now) :=
    ⟨hnow, fun _ _ hfile ↦ absurd hfile (by simp [LandingChain.start]),
      fun _ _ hfile ↦ absurd hfile (by simp [LandingChain.start]),
      fun _ hp ↦ absurd hp List.not_mem_nil⟩
  exact Machine.invariant_along (fun _ _ _ h hP hstep ↦ h.step hP hstep) h₀ hfresh hrun

/-- An old hit stamped as new is published for the full age of the file. -/
theorem LandingInv.overdue_of_not_fresh (h : LandingInv s) {e : LandingEvent}
    (hstep : (landingMachine cfg).step s e = some s') (hnot : s.writesFresh e = false) :
    ∃ t s'', (landingMachine cfg).step s' (.bridge t) = some s'' ∧
      ∃ p ∈ s''.published, p.storedAt + writerPeriod + telemetryMaxAge < p.time := by
  rcases e with ⟨detection, count, now⟩ | now | ⟨now, _ | _⟩ | now
  case write.true =>
    rw [LandingChain.writesFresh] at hnot
    dsimp only [landingMachine] at hstep
    rcases hw : s.pending with _ | w <;> rw [hw] at hnot hstep
    · exact absurd hnot (by simp)
    · obtain ⟨hnow, hs⟩ := Option.ite_none_right_eq_some.mp hstep
      obtain ⟨hdet, hlate⟩ : w.detection.detected = true ∧
          (w.storedAt : ℤ) + writerPeriod < now := by simpa using hnot
      -- The bridge ticks at the last instant it still accepts the file.
      have hpos : 0 < now := Nat.lt_of_lt_of_le h.clock hnow
      have hfile : s'.file =
          .some (landingTelemetry cfg.cameraID w.detection w.count now, w.storedAt) := by
        rw [← Option.some.inj hs]
        rfl
      obtain ⟨t, ht⟩ : ∃ t : ℕ, (t : ℤ) = now + telemetryMaxAge := ⟨now + 2000000000, rfl⟩
      have hclock : s'.clock ≤ t := by
        have hage : (0 : ℤ) ≤ telemetryMaxAge := by decide
        rw [← Option.some.inj hs]
        dsimp only
        omega
      have hpublish : ∃ target, (s'.bridge t).published =
          s'.published ++ [⟨t, target, w.storedAt⟩] :=
        bridge_published hfile hpos hdet (by rw [ht]; exact Int.le_refl _)
      obtain ⟨target, hpub⟩ := hpublish
      refine ⟨t, _, if_pos hclock, ⟨t, target, w.storedAt⟩, ?_, ?_⟩
      · exact hpub ▸ List.mem_append_right _ List.mem_cons_self
      · dsimp only
        omega
  all_goals exact absurd hnot (by simp [LandingChain.writesFresh])

end Steps

/-- **The age of a landing target.** If the writes are fresh, a message published at `t` carries a
detection stored no earlier than `t` minus the maximal age of the file minus one writer period. -/
theorem landing_target_age {cfg : LandingConf} {now : ℕ} {es : List LandingEvent}
    {s : LandingChain} (hnow : 0 < now)
    (hrun : (landingMachine cfg).run (.start now) es = some s)
    (hfresh : (landingMachine cfg).Along (fun s e ↦ s.writesFresh e = true) (.start now) es) :
    (∀ p ∈ s.published, (p.time : ℤ) - telemetryMaxAge - writerPeriod ≤ p.storedAt) ∧
    ∀ e s', (landingMachine cfg).step s e = some s' → s.writesFresh e = false →
      ∃ t s'', (landingMachine cfg).step s' (.bridge t) = some s'' ∧
        ∃ p ∈ s''.published, (p.storedAt : ℤ) < p.time - telemetryMaxAge - writerPeriod := by
  have hinv := LandingInv.of_run hnow hfresh hrun
  refine ⟨fun p hp ↦ ?_, fun e s' hstep hnot ↦ ?_⟩
  · have := hinv.published p hp
    omega
  · obtain ⟨t, s'', hbridge, p, hp, hlate⟩ := hinv.overdue_of_not_fresh hstep hnot
    exact ⟨t, s'', hbridge, p, hp, by omega⟩

/-- A hit passes through the chain within a tenth of a second. -/
theorem landing_target_age_hit :
    ∃ s, (landingMachine ⟨0, 18⟩).run (.start 1000000000)
        [.store ⟨true, .some 1, .none, .none, .none⟩ 1 1500000000, .poll 1520000000,
          .write 1530000000 true, .bridge 1600000000] = some s ∧
      (s.published.map Publication.time) = [1600000000] ∧
      ∀ p ∈ s.published, (p.time : ℤ) - telemetryMaxAge - writerPeriod ≤ p.storedAt := by
  have hrun : (landingMachine ⟨0, 18⟩).run (.start 1000000000)
      [.store ⟨true, .some 1, .none, .none, .none⟩ 1 1500000000, .poll 1520000000,
        .write 1530000000 true, .bridge 1600000000] = some _ := rfl
  exact ⟨_, hrun, rfl, (landing_target_age (by decide) hrun (by decide)).1⟩

/-- Frames stop after a hit at 1.5 s. The writer stamps the hit anew every 0.1 s for two and a half
seconds and more, and at 4.1 s the bridge still publishes it. -/
theorem stalled_hit_published :
    ∃ s, (landingMachine ⟨0, 18⟩).run (.start 1000000000)
        (.store ⟨true, .some 1, .none, .none, .none⟩ 1 1500000000 ::
          (List.range 26).flatMap (fun i ↦
            [.poll (1520000000 + i * 100000000), .write (1530000000 + i * 100000000) true]) ++
          [.bridge 4100000000]) = some s ∧
      s.published = [⟨4100000000, ⟨4100000, 1, 0, 1 / 4⟩, 1500000000⟩] ∧
      ∃ p ∈ s.published, (p.storedAt : ℤ) < p.time - telemetryMaxAge - writerPeriod :=
  ⟨_, rfl, rfl, _, List.mem_cons_self, by decide⟩

end DroneBridge
