import DroneBridge.Landing.WireFormat
import DroneBridge.Lib.Machine

/-!
# The capture loop and the encoder sink

The capture loop hands the bytes of a frame to a writer through a queue with one place, and the
writer puts them in the pipe of the encoder process. The process knows nothing of frames: it cuts
what it reads at the multiples of the size of a frame, so a frame of which only a part was written
shifts all that follow.

`enqueue` has a branch for a full queue, which removes the frame that is there. The capture loop
never takes it: it looks at the queue before it captures, and nobody else puts anything in. What the
loop hands over is therefore written in order, with no frame left out but for those that the writer
gives up and one that `stop` removes (`captureLoop_books`). As long as the writer does not give up
in the middle of a frame, the encoder process reads these frames (`encoder_reads_frames`).
-/

open scoped List

namespace DroneBridge

abbrev FrameBytes := List UInt8

inductive LoopPoint
  | top
  | capturing
  /-- In `enqueue`, before the first `put_nowait`. -/
  | put (b : FrameBytes)
  /-- In `enqueue`, before `get_nowait`. -/
  | get (b : FrameBytes)
  /-- In `enqueue`, before the second `put_nowait`. -/
  | putAgain (b : FrameBytes)
  /-- In `stop`, before the first `put_nowait`. -/
  | stopPut
  | stopGet
  | stopPutAgain
  /-- The second `put_nowait` of `stop` has raised `queue.Full`, which nothing catches. -/
  | raised
  | stopped
  deriving DecidableEq

inductive WriterPoint
  | loop
  | waiting
  /-- In `_write_frame_to_pipe`, with that many bytes written. -/
  | writing (b : FrameBytes) (offset : ℕ)
  | ended
  deriving DecidableEq

structure EncoderSink where
  running : Bool := true
  framesSent : ℕ := 0
  /-- The one place of the queue; the `None` of `stop` is the inner `none`. -/
  queue : Option (Option FrameBytes) := none
  point : LoopPoint := .top
  writer : WriterPoint := .loop
  pipeWriteDrops : ℕ := 0
  encodeDrops : ℕ := 0
  pipe : List UInt8 := []
  /-- Ghost: the frames for which `enqueue` was called. -/
  enqueued : List FrameBytes := []
  /-- Ghost: the frames that the writer is done with, each with the bytes that were written. -/
  attempts : List (FrameBytes × ℕ) := []
  /-- Ghost: what `stop` has removed from the queue. -/
  discarded : List FrameBytes := []
  deriving DecidableEq

inductive SinkEvent
  /-- The head of the capture loop; `drained` says whether the camera had a frame to throw away. -/
  | check (drained : Bool)
  | skip
  | frame (f : Image)
  /-- What the gate gives for a frame, with processing. -/
  | gated (f : Image)
  | fail
  /-- The next operation of the capture loop on the queue. -/
  | queueOp
  | clearRunning
  /-- The next step of the writer that is not a call of `os.write`. -/
  | writerOp
  | write (n : ℕ)
  /-- The deadline has passed, or `os.write` has returned 0. -/
  | giveUp
  | broken

namespace EncoderSink

section Step

variable (ops : ImageOps) (src : CaptureSource) (c : WireConf)

/-- `enqueue` up to its first operation on the queue. An error of the conversion leaves the loop. -/
def enqueue (s : EncoderSink) : Option FrameBytes → EncoderSink
  | some b => { s with point := .put b, enqueued := s.enqueued ++ [b] }
  | none => { s with point := .stopPut }

/-- The operations on the queue, each of them atomic. -/
def queueOp (s : EncoderSink) : Option EncoderSink :=
  match s.point, s.queue with
  | .put b, none => some { s with queue := some (some b), point := .top }
  | .put b, some _ => some { s with point := .get b }
  | .get b, some _ => some { s with queue := none, point := .putAgain b }
  | .get _, none => some { s with point := .top, encodeDrops := s.encodeDrops + 1 }
  | .putAgain b, none =>
    some { s with queue := some (some b), point := .top, encodeDrops := s.encodeDrops + 1 }
  | .putAgain _, some _ => some { s with point := .stopPut }
  | .stopPut, none => some { s with queue := some none, point := .stopped }
  | .stopPut, some _ => some { s with point := .stopGet }
  | .stopGet, some item =>
    some { s with queue := none, point := .stopPutAgain, discarded := item.toList ++ s.discarded }
  | .stopGet, none => some { s with point := .stopped }
  | .stopPutAgain, none => some { s with queue := some none, point := .stopped }
  | .stopPutAgain, some _ => some { s with point := .raised }
  | _, _ => none

/-- The end of `_write_frame_to_pipe`, which has not raised an error. -/
def finish (s : EncoderSink) (b : FrameBytes) (offset : ℕ) : EncoderSink :=
  { s with
    framesSent := s.framesSent + if b.length ≤ offset then 1 else 0
    pipeWriteDrops := s.pipeWriteDrops + if b.length ≤ offset then 0 else 1
    attempts := s.attempts ++ [(b, offset)]
    writer := .loop }

def writerOp (s : EncoderSink) : Option EncoderSink :=
  match s.writer with
  | .loop => some { s with writer := if s.running then .waiting else .ended }
  | .waiting =>
    match s.queue with
    | none => some { s with writer := .loop }
    | some none => some { s with queue := none, writer := .ended }
    | some (some b) => some { s with queue := none, writer := .writing b 0 }
  | .writing b offset =>
    if offset < b.length ∧ s.running then none else some (s.finish b offset)
  | .ended => none

def step (s : EncoderSink) : SinkEvent → Option EncoderSink
  | .check drained =>
    match s.point with
    | .top =>
      if s.running then
        if s.queue.isSome then some { s with encodeDrops := s.encodeDrops + drained.toNat }
        else some { s with point := .capturing }
      else some { s with point := .stopPut }
    | _ => none
  | .skip => if s.point = .capturing then some { s with point := .top } else none
  | .frame f =>
    if s.point = .capturing then
      some (s.enqueue ((src.captureWire ops c f).bind Image.npAsTightBytes))
    else none
  | .gated f =>
    if s.point = .capturing then
      some (s.enqueue ((f.bgrToWire ops c).bind Image.npAsTightBytes))
    else none
  | .fail =>
    if s.point = .top ∨ s.point = .capturing then some { s with point := .stopPut } else none
  | .queueOp => s.queueOp
  | .clearRunning => some { s with running := false }
  | .writerOp => s.writerOp
  | .write n =>
    match s.writer with
    | .writing b offset =>
      if s.running ∧ 0 < n ∧ offset + n ≤ b.length then
        some { s with
          writer := .writing b (offset + n)
          pipe := s.pipe ++ (b.drop offset).take n }
      else none
    | _ => none
  | .giveUp =>
    match s.writer with
    | .writing b offset =>
      if s.running ∧ offset < b.length then some (s.finish b offset) else none
    | _ => none
  | .broken =>
    match s.writer with
    | .writing b offset =>
      if s.running ∧ offset < b.length then
        some { s with
          running := false
          writer := .ended
          attempts := s.attempts ++ [(b, offset)] }
      else none
    | _ => none

/-- What the capture loop hands to `enqueue` at a step. -/
def handed : SinkEvent → Option FrameBytes
  | .frame f => (src.captureWire ops c f).bind Image.npAsTightBytes
  | .gated f => (f.bgrToWire ops c).bind Image.npAsTightBytes
  | _ => none

end Step

/-- What a step can do, but for the operations on the queue. -/
inductive Step (ops : ImageOps) (src : CaptureSource) (c : WireConf) (s : EncoderSink) :
    SinkEvent → EncoderSink → Prop
  /-- The loop goes round, goes on to a capture, or leaves. -/
  | turn {e : SinkEvent} {p : LoopPoint} {drops : ℕ} (he : handed ops src c e = none)
    (hpoint : s.point = .top ∨ s.point = .capturing)
    (hp : p = .top ∨ p = .stopPut ∨ p = .capturing ∧ s.queue = none) :
    Step ops src c s e { s with point := p, encodeDrops := drops }
  | enqueue {e : SinkEvent} {b : FrameBytes} (he : handed ops src c e = some b)
    (hpoint : s.point = .capturing) :
    Step ops src c s e { s with point := .put b, enqueued := s.enqueued ++ [b] }
  | queueOp {s' : EncoderSink} (h : s.queueOp = some s') : Step ops src c s .queueOp s'
  | clearRunning : Step ops src c s .clearRunning { s with running := false }
  | wait (hwriter : s.writer = .loop) (hrunning : s.running = true) :
    Step ops src c s .writerOp { s with writer := .waiting }
  | end_ (hwriter : s.writer = .loop) (hrunning : s.running = false) :
    Step ops src c s .writerOp { s with writer := .ended }
  | timeout (hwriter : s.writer = .waiting) (hqueue : s.queue = none) :
    Step ops src c s .writerOp { s with writer := .loop }
  | sentinel (hwriter : s.writer = .waiting) (hqueue : s.queue = some none) :
    Step ops src c s .writerOp { s with queue := none, writer := .ended }
  | take {b : FrameBytes} (hwriter : s.writer = .waiting) (hqueue : s.queue = some (some b)) :
    Step ops src c s .writerOp { s with queue := none, writer := .writing b 0 }
  | finish {b : FrameBytes} {offset : ℕ} (hwriter : s.writer = .writing b offset)
    (hend : offset < b.length → s.running = false) :
    Step ops src c s .writerOp (s.finish b offset)
  | write {b : FrameBytes} {offset n : ℕ} (hwriter : s.writer = .writing b offset)
    (hn : offset + n ≤ b.length) :
    Step ops src c s (.write n)
      { s with writer := .writing b (offset + n), pipe := s.pipe ++ (b.drop offset).take n }
  | giveUp {b : FrameBytes} {offset : ℕ} (hwriter : s.writer = .writing b offset)
    (hoffset : offset < b.length) : Step ops src c s .giveUp (s.finish b offset)
  | broken {b : FrameBytes} {offset : ℕ} (hwriter : s.writer = .writing b offset)
    (hoffset : offset < b.length) :
    Step ops src c s .broken
      { s with running := false, writer := .ended, attempts := s.attempts ++ [(b, offset)] }

variable {ops : ImageOps} {src : CaptureSource} {c : WireConf} {s s' : EncoderSink} {e : SinkEvent}

theorem step_enqueue {b : Option FrameBytes} (he : handed ops src c e = b)
    (hpoint : s.point = .capturing) : Step ops src c s e (s.enqueue b) := by
  cases b with
  | none => exact .turn he (.inr hpoint) (.inr (.inl rfl))
  | some b => exact .enqueue he hpoint

theorem step_writerOp (h : s.writerOp = some s') : Step ops src c s .writerOp s' := by
  rw [writerOp] at h
  split at h
  next hwriter =>
    cases h
    by_cases hrunning : s.running = true
    · rw [if_pos hrunning]
      exact .wait hwriter hrunning
    · rw [if_neg hrunning]
      exact .end_ hwriter (by simpa using hrunning)
  next hwriter =>
    split at h <;> cases h
    · exact .timeout hwriter ‹_›
    · exact .sentinel hwriter ‹_›
    · exact .take hwriter ‹_›
  next hwriter =>
    split_ifs at h with hmore
    cases h
    exact .finish hwriter fun hoffset ↦ by simpa [hoffset] using hmore
  next => cases h

theorem step_of_eq (h : s.step ops src c e = some s') : Step ops src c s e s' := by
  cases e with
  | check drained =>
    rw [step] at h
    split at h
    next hpoint =>
      split_ifs at h with hrunning hqueue <;> cases h
      · exact .turn rfl (.inl hpoint) (.inl hpoint)
      · exact .turn rfl (.inl hpoint) (.inr (.inr ⟨rfl, by simpa using hqueue⟩))
      · exact .turn rfl (.inl hpoint) (.inr (.inl rfl))
    next => cases h
  | skip =>
    obtain ⟨hpoint, rfl⟩ : s.point = .capturing ∧ _ = s' := by simpa [step] using h
    exact .turn rfl (.inr hpoint) (by simp)
  | fail =>
    obtain ⟨hpoint, rfl⟩ : (s.point = .top ∨ s.point = .capturing) ∧ _ = s' := by
      simpa [step] using h
    exact .turn rfl hpoint (by simp)
  | frame f | gated f =>
    obtain ⟨hpoint, rfl⟩ : s.point = .capturing ∧ _ = s' := by simpa only
      [step, Option.ite_none_right_eq_some, Option.some.injEq] using h
    exact step_enqueue rfl hpoint
  | queueOp => exact .queueOp h
  | clearRunning =>
    cases h
    exact .clearRunning
  | writerOp => exact step_writerOp h
  | write n =>
    rw [step] at h
    split at h
    · split_ifs at h with hn
      cases h
      exact .write ‹_› hn.2.2
    · cases h
  | giveUp =>
    rw [step] at h
    split at h
    · split_ifs at h with hoffset
      cases h
      exact .giveUp ‹_› hoffset.2
    · cases h
  | broken =>
    rw [step] at h
    split at h
    · split_ifs at h with hoffset
      cases h
      exact .broken ‹_› hoffset.2
    · cases h

end EncoderSink

def encoderMachine (ops : ImageOps) (src : CaptureSource) (c : WireConf) :
    Machine EncoderSink SinkEvent := ⟨EncoderSink.step ops src c⟩

/-! ## What becomes of a frame -/

/-- What may be in the queue, if the loop is alone in putting things there. -/
def LoopPoint.Allows : LoopPoint → Option (Option FrameBytes) → Prop
  | .capturing, q | .put _, q | .stopPutAgain, q => q = none
  | .get _, _ | .putAgain _, _ | .raised, _ => False
  | .top, _ | .stopPut, _ | .stopGet, _ | .stopped, _ => True

theorem LoopPoint.Allows.none {p : LoopPoint} {q : Option (Option FrameBytes)} (h : p.Allows q) :
    p.Allows none := by
  cases p <;> first | exact h | exact rfl

def LoopPoint.frame : LoopPoint → Option FrameBytes
  | .put b | .get b | .putAgain b => some b
  | _ => none

/-- How much `stop` can have removed. -/
def LoopPoint.removed : LoopPoint → ℕ
  | .stopPutAgain | .raised | .stopped => 1
  | _ => 0

theorem LoopPoint.removed_le (p : LoopPoint) : p.removed ≤ 1 := by
  cases p <;> simp [removed]

def WriterPoint.frame : WriterPoint → Option FrameBytes
  | .writing b _ => some b
  | _ => none

/-- What is in the pipe of the frame that the writer holds. -/
def WriterPoint.written : WriterPoint → List UInt8
  | .writing b offset => b.take offset
  | _ => []

namespace EncoderSink

/-- The frames between `enqueue` and the end of their writing, the oldest first. -/
def inFlight (s : EncoderSink) : List FrameBytes :=
  s.writer.frame.toList ++ s.queue.join.toList ++ s.point.frame.toList

variable {ops : ImageOps} {src : CaptureSource} {c : WireConf} {s s' : EncoderSink} {e : SinkEvent}

/-- What the operations on the queue can do for a loop that is alone in putting things there. -/
inductive QueueStep (s : EncoderSink) : EncoderSink → Prop
  | put {b : FrameBytes} (hpoint : s.point = .put b) (hqueue : s.queue = none) :
    QueueStep s { s with queue := some (some b), point := .top }
  | stop (hpoint : s.point = .stopPut ∨ s.point = .stopPutAgain) (hqueue : s.queue = none) :
    QueueStep s { s with queue := some none, point := .stopped }
  | stopFull (hpoint : s.point = .stopPut) : QueueStep s { s with point := .stopGet }
  | stopGet {item : Option FrameBytes} (hpoint : s.point = .stopGet)
    (hqueue : s.queue = some item) :
    QueueStep s
      { s with queue := none, point := .stopPutAgain, discarded := item.toList ++ s.discarded }
  | stopEmpty (hpoint : s.point = .stopGet) : QueueStep s { s with point := .stopped }

theorem queueStep_of_eq (hs : s.point.Allows s.queue) (h : s.queueOp = some s') :
    QueueStep s s' := by
  rw [queueOp] at h
  split at h <;> cases h <;> rename_i hpoint hqueue <;> rw [hpoint, hqueue] at hs
  · exact .put hpoint hqueue
  · cases hs
  · exact hs.elim
  · exact hs.elim
  · exact hs.elim
  · exact hs.elim
  · exact .stop (.inl hpoint) hqueue
  · exact .stopFull hpoint
  · exact .stopGet hpoint hqueue
  · exact .stopEmpty hpoint
  · exact .stop (.inr hpoint) hqueue
  · cases hs

/-- Where the frames are, and what is in the pipe. -/
structure Books (s : EncoderSink) : Prop where
  alone : s.point.Allows s.queue
  removed : s.discarded.length ≤ s.point.removed
  conveyor : s.attempts.map Prod.fst ++ s.inFlight ++ s.discarded = s.enqueued
  offset : ∀ b offset, s.writer = .writing b offset → offset ≤ b.length
  pipe : s.pipe = s.attempts.flatMap (fun a ↦ a.1.take a.2) ++ s.writer.written
  sent : s.framesSent = s.attempts.countP fun a ↦ a.1.length ≤ a.2
  counted : s.attempts.length = s.framesSent + s.pipeWriteDrops ∨
    s.attempts.length = s.framesSent + s.pipeWriteDrops + 1 ∧ s.writer = .ended

theorem books_init : Books {} where
  alone := trivial
  removed := Nat.zero_le _
  conveyor := rfl
  offset := by simp
  pipe := rfl
  sent := rfl
  counted := .inl rfl

theorem Books.discarded_eq_nil (hs : Books s) (h : s.point.removed = 0) : s.discarded = [] :=
  List.length_eq_zero_iff.mp (Nat.le_zero.mp (h ▸ hs.removed))

theorem Books.queueStep (hs : Books s) (hstep : QueueStep s s') : Books s' := by
  have hconv := hs.conveyor
  have hremoved := hs.removed
  rw [inFlight] at hconv
  cases hstep with
  | put hpoint hqueue =>
    refine ⟨trivial, ?_, ?_, hs.offset, hs.pipe, hs.sent, hs.counted⟩
    · rwa [hpoint] at hremoved
    · simpa [inFlight, hpoint, hqueue, LoopPoint.frame] using hconv
  | stop hpoint hqueue =>
    refine ⟨trivial, hremoved.trans s.point.removed_le, ?_, hs.offset, hs.pipe, hs.sent, hs.counted⟩
    obtain h | h := hpoint <;> simpa [inFlight, h, hqueue, LoopPoint.frame] using hconv
  | stopFull hpoint =>
    rw [hpoint] at hremoved
    refine ⟨trivial, hremoved, ?_, hs.offset, hs.pipe, hs.sent, hs.counted⟩
    simpa [inFlight, hpoint, LoopPoint.frame] using hconv
  | @stopGet item hpoint hqueue =>
    have hnil := hs.discarded_eq_nil (by rw [hpoint]; rfl)
    refine ⟨rfl, ?_, ?_, hs.offset, hs.pipe, hs.sent, hs.counted⟩
    · rw [hnil, List.append_nil]
      exact item.length_toList_le
    · simpa [inFlight, hpoint, hqueue, hnil, LoopPoint.frame] using hconv
  | stopEmpty hpoint =>
    refine ⟨trivial, hremoved.trans s.point.removed_le, ?_, hs.offset, hs.pipe, hs.sent, hs.counted⟩
    simpa [inFlight, hpoint, LoopPoint.frame] using hconv

/-- The writer is done with its frame and goes on, whether or not the frame was sent. -/
theorem Books.finish {b : FrameBytes} {offset : ℕ} (hs : Books s)
    (hwriter : s.writer = .writing b offset) : Books (s.finish b offset) where
  alone := hs.alone
  removed := hs.removed
  conveyor := by
    have hconv := hs.conveyor
    simpa [EncoderSink.finish, inFlight, hwriter, WriterPoint.frame] using hconv
  offset := by simp [EncoderSink.finish]
  pipe := by
    have hpipe := hs.pipe
    simpa [EncoderSink.finish, hwriter, WriterPoint.written] using hpipe
  sent := by
    rw [EncoderSink.finish, List.countP_append, ← hs.sent, List.countP_singleton]
    simp
  counted := by
    have hcounted := hs.counted
    rw [hwriter] at hcounted
    simp only [EncoderSink.finish, List.length_append, List.length_singleton]
    split_ifs <;> grind

theorem Books.step (hs : Books s) (hstep : Step ops src c s e s') : Books s' := by
  have hconv := hs.conveyor
  have halone := hs.alone
  rw [inFlight] at hconv
  cases hstep with
  | turn he hpoint hp =>
    have hnil := hs.discarded_eq_nil (by obtain h | h := hpoint <;> rw [h] <;> rfl)
    refine ⟨?_, by simp [hnil], ?_, hs.offset, hs.pipe, hs.sent, hs.counted⟩
    · obtain rfl | rfl | ⟨rfl, hqueue⟩ := hp
      · trivial
      · trivial
      · exact hqueue
    · obtain h | h := hpoint <;> obtain rfl | rfl | ⟨rfl, -⟩ := hp <;>
        simpa [inFlight, h, LoopPoint.frame] using hconv
  | @enqueue _ b he hpoint =>
    have hnil := hs.discarded_eq_nil (by rw [hpoint]; rfl)
    rw [hpoint] at halone
    refine ⟨halone, by simp [hnil], ?_, hs.offset, hs.pipe, hs.sent, hs.counted⟩
    simp [← hconv, inFlight, hpoint, hnil, LoopPoint.frame]
  | queueOp h => exact hs.queueStep (queueStep_of_eq hs.alone h)
  | clearRunning =>
    exact ⟨hs.alone, hs.removed, hs.conveyor, hs.offset, hs.pipe, hs.sent, hs.counted⟩
  | wait hwriter hrunning | end_ hwriter hrunning | timeout hwriter hrunning =>
    refine ⟨hs.alone, hs.removed, ?_, by simp, ?_, hs.sent, by grind [hs.counted]⟩
    · simpa [inFlight, hwriter, WriterPoint.frame] using hconv
    · have hpipe := hs.pipe
      simpa [hwriter, WriterPoint.written] using hpipe
  | sentinel hwriter hqueue =>
    refine ⟨halone.none, hs.removed, ?_, by simp, ?_, hs.sent, by grind [hs.counted]⟩
    · simpa [inFlight, hwriter, hqueue, WriterPoint.frame] using hconv
    · have hpipe := hs.pipe
      simpa [hwriter, WriterPoint.written] using hpipe
  | take hwriter hqueue =>
    refine ⟨halone.none, hs.removed, ?_, by simp, ?_, hs.sent, by grind [hs.counted]⟩
    · simpa [inFlight, hwriter, hqueue, WriterPoint.frame] using hconv
    · have hpipe := hs.pipe
      simpa [hwriter, WriterPoint.written] using hpipe
  | finish hwriter hend => exact hs.finish hwriter
  | @write b offset n hwriter hn =>
    -- The pipe grows by what the writer now has behind it.
    refine ⟨hs.alone, hs.removed, ?_, ?_, ?_, hs.sent, by grind [hs.counted]⟩
    · simpa [inFlight, hwriter, WriterPoint.frame] using hconv
    · rintro _ _ ⟨⟩
      exact hn
    · rw [hs.pipe, hwriter, List.append_assoc]
      simp [WriterPoint.written, List.take_add]
  | giveUp hwriter hoffset => exact hs.finish hwriter
  | @broken b offset hwriter hoffset =>
    -- The one frame that is not counted: the writer ends with it.
    refine ⟨hs.alone, hs.removed, ?_, by simp, ?_, ?_, ?_⟩
    · simpa [inFlight, hwriter, WriterPoint.frame] using hconv
    · have hpipe := hs.pipe
      simpa [hwriter, WriterPoint.written] using hpipe
    · rw [List.countP_append, ← hs.sent, List.countP_singleton]
      simp [hoffset]
    · have hcounted := hs.counted
      rw [hwriter] at hcounted
      simp only [List.length_append, List.length_singleton]
      grind

theorem books_of_run {es : List SinkEvent} (hrun : (encoderMachine ops src c).run {} es = some s) :
    Books s :=
  Machine.invariant (fun _ _ _ hs h ↦ hs.step (step_of_eq h)) books_init hrun

theorem enqueued_of_run {es : List SinkEvent}
    (hrun : (encoderMachine ops src c).run {} es = some s) :
    s.enqueued = es.filterMap (handed ops src c) := by
  refine Machine.history_induction (I := fun es s ↦ s.enqueued = es.filterMap (handed ops src c))
    rfl (fun es s e s' hrun hs h ↦ ?_) hrun
  have hbooks := books_of_run hrun
  rw [List.filterMap_append, ← hs]
  cases step_of_eq h with
  | turn he => simp [he]
  | enqueue he => simp [he]
  | queueOp h => cases queueStep_of_eq hbooks.alone h <;> simp [handed]
  | _ => simp [handed, finish]

end EncoderSink

open EncoderSink in
/-- `enqueue` never finds the queue full and `stop` never raises an error. The frames handed over
are, in order, those the writer is done with, those in flight and at most one that `stop` has
removed. Of the first, each was counted once, but for the one at which the pipe broke. -/
theorem captureLoop_books {ops : ImageOps} {src : CaptureSource} {c : WireConf}
    {es : List SinkEvent} {s : EncoderSink}
    (hrun : (encoderMachine ops src c).run {} es = some s) :
    (∀ b, s.point ≠ .get b ∧ s.point ≠ .putAgain b) ∧ s.point ≠ .raised ∧
      es.filterMap (handed ops src c) =
        s.attempts.map Prod.fst ++ s.inFlight ++ s.discarded ∧ s.discarded.length ≤ 1 ∧
      s.framesSent = s.attempts.countP (fun a ↦ a.1.length ≤ a.2) ∧
      (s.attempts.length = s.framesSent + s.pipeWriteDrops ∨
        s.attempts.length = s.framesSent + s.pipeWriteDrops + 1 ∧ s.writer = .ended) := by
  have hs := books_of_run hrun
  refine ⟨fun b ↦ ⟨fun h ↦ ?_, fun h ↦ ?_⟩, fun h ↦ ?_, ?_, hs.removed.trans s.point.removed_le,
    hs.sent, hs.counted⟩
  · exact (h ▸ hs.alone : (LoopPoint.get b).Allows s.queue)
  · exact (h ▸ hs.alone : (LoopPoint.putAgain b).Allows s.queue)
  · exact (h ▸ hs.alone : LoopPoint.raised.Allows s.queue)
  · rw [hs.conveyor, enqueued_of_run hrun]

open EncoderSink in
/-- The run of an exception while the writer is at a frame: `stop` removes the one in the queue. -/
theorem captureLoop_books_stop : ∃ s,
    (encoderMachine .exact ⟨none, true⟩ ⟨none, some (1, 1)⟩).run {}
      [.check true, .frame ⟨1, 1, some 3, fun _ _ j ↦ j.toUInt8⟩, .queueOp, .writerOp, .writerOp,
        .check true, .frame ⟨1, 1, some 3, fun _ _ j ↦ j.toUInt8⟩, .queueOp, .check false,
        .clearRunning, .check false, .queueOp, .queueOp, .queueOp] = some s ∧
      s.point ≠ .raised ∧ s.discarded.length ≤ 1 := by
  have hrun : ((encoderMachine .exact ⟨none, true⟩ ⟨none, some (1, 1)⟩).run {}
      [.check true, .frame ⟨1, 1, some 3, fun _ _ j ↦ j.toUInt8⟩, .queueOp, .writerOp, .writerOp,
        .check true, .frame ⟨1, 1, some 3, fun _ _ j ↦ j.toUInt8⟩, .queueOp, .check false,
        .clearRunning, .check false, .queueOp, .queueOp, .queueOp]).isSome := by decide
  obtain ⟨s, hs⟩ := Option.isSome_iff_exists.mp hrun
  obtain ⟨-, hraised, -, hdiscarded, -⟩ := captureLoop_books hs
  exact ⟨s, hs, hraised, hdiscarded⟩

namespace EncoderSink

variable {ops : ImageOps} {src : CaptureSource} {c : WireConf} {s s' : EncoderSink} {e : SinkEvent}

/-! ## What the encoder process reads -/

/-- The frames that are in the pipe whole. -/
def whole (s : EncoderSink) : List FrameBytes :=
  (s.attempts.filter fun a ↦ a.1.length ≤ a.2).map Prod.fst ++
    match s.writer with
    | .writing b offset => if b.length ≤ offset then [b] else []
    | _ => []

/-- Whether the writer has written a frame whole and not counted it yet. -/
def uncounted (s : EncoderSink) : ℕ :=
  match s.writer with
  | .writing b offset => if b.length ≤ offset then 1 else 0
  | _ => 0

/-- Every attempt is of the good kind, but for a last one after which nothing is written. -/
def Tidy (P : FrameBytes × ℕ → Prop) (s : EncoderSink) : Prop :=
  ∃ good last, s.attempts = good ++ last ∧ (∀ a ∈ good, P a) ∧
    (last = [] ∨ ∃ a, last = [a] ∧ a.2 < a.1.length ∧ s.running = false ∧
      (s.writer = .loop ∨ s.writer = .ended))

variable {P : FrameBytes × ℕ → Prop}

theorem tidy_of_forall (h : ∀ a ∈ s.attempts, P a) : Tidy P s :=
  ⟨s.attempts, [], (List.append_nil _).symm, h, .inl rfl⟩

/-- A writer that still runs is at its first attempt of another kind at most. -/
theorem Tidy.forall_attempts (hs : Tidy P s)
    (h : s.running = true ∨ s.writer ≠ .loop ∧ s.writer ≠ .ended) : ∀ a ∈ s.attempts, P a := by
  obtain ⟨good, last, hattempts, hgood, rfl | ⟨a, -, -, hrunning, hwriter⟩⟩ := hs
  · rwa [hattempts, List.append_nil]
  · grind

theorem Tidy.finish {b : FrameBytes} {offset : ℕ} (hs : Tidy P s)
    (hwriter : s.writer = .writing b offset) (h : P (b, offset)) : Tidy P (s.finish b offset) :=
  tidy_of_forall (List.forall_mem_append.mpr
    ⟨hs.forall_attempts (by simp [hwriter]), List.forall_mem_singleton.mpr h⟩)

theorem Tidy.last {b : FrameBytes} {offset : ℕ} (hs : Tidy P s)
    (hwriter : s.writer = .writing b offset) (hoffset : offset < b.length)
    (hattempts : s'.attempts = s.attempts ++ [(b, offset)]) (hrunning : s'.running = false)
    (hwriter' : s'.writer = .loop ∨ s'.writer = .ended) : Tidy P s' :=
  ⟨s.attempts, [(b, offset)], hattempts, hs.forall_attempts (by simp [hwriter]),
    .inr ⟨_, rfl, hoffset, hrunning, hwriter'⟩⟩

theorem Tidy.step (hP : ∀ a : FrameBytes × ℕ, a.2 = a.1.length → P a)
    (hgive : e = .giveUp → ∀ b offset, s.writer = .writing b offset → P (b, offset))
    (hb : Books s) (hs : Tidy P s) (hstep : Step ops src c s e s') : Tidy P s' := by
  cases hstep with
  | turn | enqueue => exact hs
  | queueOp h => cases queueStep_of_eq hb.alone h <;> exact hs
  | clearRunning =>
    obtain ⟨good, last, hattempts, hgood, hlast⟩ := hs
    refine ⟨good, last, hattempts, hgood, hlast.imp_right ?_⟩
    rintro ⟨a, rfl, ha, -, hwriter⟩
    exact ⟨a, rfl, ha, rfl, hwriter⟩
  | wait hwriter hrunning => exact tidy_of_forall (hs.forall_attempts (.inl hrunning))
  | end_ hwriter hrunning =>
    obtain ⟨good, last, hattempts, hgood, hlast⟩ := hs
    refine ⟨good, last, hattempts, hgood, hlast.imp_right ?_⟩
    rintro ⟨a, rfl, ha, hrunning, -⟩
    exact ⟨a, rfl, ha, hrunning, .inr rfl⟩
  | timeout hwriter | sentinel hwriter | take hwriter | write hwriter =>
    exact tidy_of_forall (hs.forall_attempts (by simp [hwriter]))
  | @finish b offset hwriter hend =>
    obtain hoffset | hoffset := (hb.offset b offset hwriter).lt_or_eq
    · exact hs.last hwriter hoffset rfl (hend hoffset) (.inl rfl)
    · exact hs.finish hwriter (hP _ hoffset)
  | giveUp hwriter hoffset => exact hs.finish hwriter (hgive rfl _ _ hwriter)
  | broken hwriter hoffset => exact hs.last hwriter hoffset rfl rfl (.inr rfl)

theorem flatMap_take_eq {as : List (FrameBytes × ℕ)}
    (h : ∀ a ∈ as, a.2 = 0 ∨ a.2 = a.1.length) :
    as.flatMap (fun a ↦ a.1.take a.2) =
      ((as.filter fun a ↦ a.1.length ≤ a.2).map Prod.fst).flatten := by
  induction as with
  | nil => rfl
  | cons a as ih =>
    rw [List.forall_mem_cons] at h
    rw [List.flatMap_cons, ih h.2, List.filter_cons]
    split_ifs with hlen
    · rw [List.map_cons, List.flatten_cons, List.take_of_length_le (by simpa using hlen)]
    · have hzero : a.2 = 0 := h.1.resolve_right fun heq ↦ hlen (by simp [heq])
      rw [hzero, List.take_zero, List.nil_append]

/-- The pipe holds the frames that are in it whole, and less than a frame after them. -/
theorem Books.pipe_eq (hb : Books s) (hs : Tidy (fun a ↦ a.2 = 0 ∨ a.2 = a.1.length) s) {n : ℕ}
    (hpos : 0 < n) (hn : ∀ b ∈ s.enqueued, b.length = n) :
    ∃ rest, s.pipe = s.whole.flatten ++ rest ∧ rest.length < n := by
  have hmem {b : FrameBytes} (h : b ∈ s.attempts.map Prod.fst ++ s.inFlight) : b.length = n :=
    hn b (hb.conveyor ▸ List.mem_append_left _ h)
  obtain ⟨good, last, hattempts, hgood, rfl | ⟨⟨b, offset⟩, rfl, hoffset, -, hwriter⟩⟩ := hs
  · rw [List.append_nil] at hattempts
    rw [hb.pipe, hattempts, flatMap_take_eq hgood, whole, hattempts, List.flatten_append]
    match hwriter : s.writer with
    | .writing b offset =>
      have hlen : b.length = n := hmem (by simp [inFlight, hwriter, WriterPoint.frame])
      by_cases hoffset : b.length ≤ offset
      · exact ⟨[], by simp [hoffset, WriterPoint.written, List.take_of_length_le], hpos⟩
      · refine ⟨b.take offset, by simp [hoffset, WriterPoint.written], ?_⟩
        rw [List.length_take]
        omega
    | .loop | .waiting | .ended => exact ⟨[], by simp [WriterPoint.written], hpos⟩
  · have hlen : b.length = n := hmem (by simp [hattempts])
    refine ⟨b.take offset, ?_, ?_⟩
    · rw [hb.pipe, whole, hattempts]
      obtain hwriter | hwriter := hwriter <;>
        simp [hwriter, WriterPoint.written, flatMap_take_eq hgood, Nat.not_le.mpr hoffset]
    · rw [List.length_take]
      simp only at hoffset
      omega

theorem Books.whole_sublist (hb : Books s) : s.whole <+ s.enqueued := by
  rw [← hb.conveyor, whole, inFlight, List.append_assoc (s.writer.frame.toList),
    ← List.append_assoc (s.attempts.map Prod.fst), List.append_assoc _ _ s.discarded]
  refine List.Sublist.trans (List.Sublist.append (List.filter_sublist.map _) ?_)
    (List.sublist_append_left _ _)
  cases s.writer with
  | writing b offset =>
    simp only [WriterPoint.frame]
    split_ifs
    · exact List.Sublist.refl _
    · exact List.nil_sublist _
  | _ => exact List.nil_sublist _

theorem Books.whole_prefix (hb : Books s) (hs : Tidy (fun a ↦ a.2 = a.1.length) s) :
    s.whole <+: s.enqueued := by
  have hfull {good : List (FrameBytes × ℕ)} (hgood : ∀ a ∈ good, a.2 = a.1.length) :
      good.filter (fun a ↦ a.1.length ≤ a.2) = good :=
    List.filter_eq_self.mpr fun a ha ↦ by simp [hgood a ha]
  obtain ⟨good, last, hattempts, hgood, rfl | ⟨a, rfl, ha, -, hwriter⟩⟩ := hs
  · rw [List.append_nil] at hattempts
    rw [← hb.conveyor, whole, inFlight, hattempts, hfull hgood, List.append_assoc,
      List.prefix_append_right_inj]
    cases s.writer with
    | writing b offset =>
      simp only [WriterPoint.frame]
      split_ifs <;> simp
    | _ => simp
  · rw [← hb.conveyor, whole, hattempts, List.filter_append, hfull hgood]
    obtain hwriter | hwriter := hwriter <;> simp [hwriter, Nat.not_le.mpr ha]

theorem Books.length_whole (hb : Books s) : s.whole.length = s.framesSent + s.uncounted := by
  rw [whole, List.length_append, List.length_map, ← List.countP_eq_length_filter, ← hb.sent,
    uncounted]
  cases s.writer with
  | writing b offset =>
    simp only
    split_ifs <;> rfl
  | _ => rfl

/-! ## The frames that are handed over -/

end EncoderSink

/-- The frame that comes with a step has colours. -/
def SinkEvent.IsColour : SinkEvent → Prop
  | .frame f | .gated f => f.IsColour
  | _ => True

/-- The writer gives up a frame only before its first byte. -/
def EncoderSink.GivesUpEarly (s : EncoderSink) : SinkEvent → Prop
  | .giveUp => s.writer.written = []
  | _ => True

namespace EncoderSink

variable {ops : ImageOps} {src : CaptureSource} {c : WireConf} {s s' : EncoderSink} {e : SinkEvent}

theorem length_handed (hw : 0 < c.targetSize.1) (hh : 0 < c.targetSize.2) (he : e.IsColour)
    {b : FrameBytes} (hb : handed ops src c e = some b) :
    b.length = 3 * (c.targetSize.1.toNat * c.targetSize.2.toNat) := by
  have hlen {f : Image} {order : ChannelOrder} (hf : f.IsColour)
      (h : (f.sensorToWire ops c order).bind Image.npAsTightBytes = some b) :
      b.length = 3 * (c.targetSize.1.toNat * c.targetSize.2.toNat) := by
    obtain ⟨-, out, -, hout, -, h3, hwidth, hheight⟩ := Image.sensorToWire_spec ops order hf hw hh
    rw [hout, Option.bind_some, Image.npAsTightBytes, if_pos h3, Option.some.injEq] at h
    rw [← h, Image.length_tightBytes, ← hwidth, ← hheight, Int.toNat_natCast, Int.toNat_natCast]
  cases e with
  | frame f => exact hlen he hb
  | gated f => exact @hlen f .bgr he hb
  | _ => cases hb

theorem tidy_of_run {P : FrameBytes × ℕ → Prop} {es : List SinkEvent}
    (hP : ∀ a : FrameBytes × ℕ, a.2 = a.1.length → P a)
    (hgive : (encoderMachine ops src c).Along
      (fun s e ↦ e = .giveUp → Books s → ∀ b offset, s.writer = .writing b offset → P (b, offset))
      {} es)
    (hrun : (encoderMachine ops src c).run {} es = some s) : Tidy P s := by
  have h := Machine.invariant_along (I := fun s ↦ Books s ∧ Tidy P s)
    (fun s e s' hs hg h ↦ ⟨hs.1.step (step_of_eq h),
      hs.2.step hP (fun he ↦ hg he hs.1) hs.1 (step_of_eq h)⟩)
    ⟨books_init, tidy_of_forall (by simp)⟩ hgive hrun
  exact h.2

end EncoderSink

open EncoderSink in
/-- If the writer gives up frames only before their first byte, the encoder process reads frames
that were handed over, in their order: as many as were counted as sent, and one more between its
last byte and its count. -/
theorem encoder_reads_frames {ops : ImageOps} {src : CaptureSource} {c : WireConf}
    {es : List SinkEvent} {s : EncoderSink} (hw : 0 < c.targetSize.1) (hh : 0 < c.targetSize.2)
    (hcolour : ∀ e ∈ es, e.IsColour)
    (hgive : (encoderMachine ops src c).Along GivesUpEarly {} es)
    (hrun : (encoderMachine ops src c).run {} es = some s) :
    ∃ frames, streamBlocks (3 * (c.targetSize.1.toNat * c.targetSize.2.toNat)) s.pipe = frames ∧
      frames <+ es.filterMap (handed ops src c) ∧
      frames.length = s.framesSent + s.uncounted ∧
      ((∀ e ∈ es, e ≠ .giveUp) → frames <+: es.filterMap (handed ops src c)) := by
  have hb := books_of_run hrun
  have hlen : ∀ b ∈ s.enqueued,
      b.length = 3 * (c.targetSize.1.toNat * c.targetSize.2.toNat) := by
    rw [enqueued_of_run hrun]
    intro b hmem
    obtain ⟨e, he, hbytes⟩ := List.mem_filterMap.mp hmem
    exact length_handed hw hh (hcolour e he) hbytes
  have hpos : 0 < 3 * (c.targetSize.1.toNat * c.targetSize.2.toNat) :=
    Nat.mul_pos (by decide) (Nat.mul_pos (by omega) (by omega))
  -- What the writer has left is in the pipe whole or not at all.
  have htidy : Tidy (fun a ↦ a.2 = 0 ∨ a.2 = a.1.length) s := by
    refine tidy_of_run (fun a h ↦ .inr h) (hgive.mono ?_) hrun
    rintro s _ hearly rfl hs b offset hwriter
    have hoffset := hs.offset b offset hwriter
    rw [GivesUpEarly, hwriter, WriterPoint.written, List.take_eq_nil_iff] at hearly
    obtain hzero | rfl := hearly
    · exact .inl hzero
    · exact .inr (Nat.le_zero.mp hoffset)
  obtain ⟨rest, hpipe, hrest⟩ := hb.pipe_eq htidy hpos hlen
  have hsub := hb.whole_sublist
  have hblocks := streamBlocks_flatten_append (fun b hmem ↦ hlen b (hsub.subset hmem)) hrest
  rw [← hpipe] at hblocks
  rw [← enqueued_of_run hrun]
  refine ⟨s.whole, hblocks, hsub, hb.length_whole, fun hnone ↦ ?_⟩
  refine hb.whole_prefix (tidy_of_run (fun a h ↦ h) ?_ hrun)
  exact (Machine.along_of_forall hnone _).mono fun _ _ hne he ↦ absurd he hne

/-- A frame of one row and two columns, and its bytes. -/
def pixelPair (k : ℕ) : Image := ⟨1, 2, some 3, fun _ x j ↦ (k + 3 * x + j).toUInt8⟩

def pairSource : CaptureSource := ⟨some "BGR888", true⟩

def pairConf : WireConf := ⟨some "BGR888", some (2, 1)⟩

/-- Two frames, the second of them in two pieces. -/
theorem encoder_reads_frames_pair : ∃ s frames,
    (encoderMachine .exact pairSource pairConf).run {}
      [.check true, .frame (pixelPair 0), .queueOp, .writerOp, .writerOp, .write 6, .writerOp,
        .check true, .gated (pixelPair 10), .queueOp, .writerOp, .writerOp, .write 4, .write 2] =
        some s ∧
      streamBlocks 6 s.pipe = frames ∧ frames.length = s.framesSent + s.uncounted := by
  have hrun : ((encoderMachine .exact pairSource pairConf).run {}
      [.check true, .frame (pixelPair 0), .queueOp, .writerOp, .writerOp, .write 6, .writerOp,
        .check true, .gated (pixelPair 10), .queueOp, .writerOp, .writerOp, .write 4,
        .write 2]).isSome := by decide
  obtain ⟨s, hs⟩ := Option.isSome_iff_exists.mp hrun
  obtain ⟨frames, hframes, -, hlen, -⟩ := encoder_reads_frames (by decide) (by decide)
    (by simp [SinkEvent.IsColour, Image.IsColour, pixelPair])
    (by simp [Machine.Along, EncoderSink.GivesUpEarly]) hs
  exact ⟨s, frames, hs, hframes, hlen⟩

/-- The writer gives up the first frame after four of its six bytes: the encoder process reads two
bytes of the second one with them. -/
example : ((encoderMachine .exact pairSource pairConf).run {}
    [.check true, .frame (pixelPair 0), .queueOp, .writerOp, .writerOp, .write 4, .giveUp,
      .check true, .frame (pixelPair 10), .queueOp, .writerOp, .writerOp, .write 6]).map
      (fun s ↦ streamBlocks 6 s.pipe) = some [[0, 1, 2, 3, 10, 11]] := by
  decide

end DroneBridge
