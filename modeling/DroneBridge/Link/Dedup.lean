import DroneBridge.Lib.RingBuf
import DroneBridge.Link.Arbiter

/-!
# One copy of each frame

The flight controller sends the same frames on every link. The receiver observes each frame with
the arbiter, lets it pass only when it came on the active link, and drops it when its sequence
number is among the last 32 accepted ones of the same system and component. The arbiter's health
check runs in another goroutine: a link change may fall anywhere between two steps of the receiver,
and the receiver learns about it from the generation it is handed with its next frame, when it
throws the history away.

The model runs the receiver, cut at every critical section of `observe`, against the arbiter. Two
ghosts say what is meant: `period` counts the changes of the active link, and the log keeps every
frame with the link and the period that were current when it was observed. The invariant ties the
history to the log: each ring holds what was accepted under the generation the receiver knows
(`DedupInv.hist`), and generations are periods (`DedupInv.gen`).
-/

namespace DroneBridge

/-! ## The history of sequence numbers -/

def seqHistLen : ℕ := 32

/-- The last accepted sequence numbers of a system and component. -/
structure SeqHist where
  ring : RingBuf UInt8

def SeqHist.zero : SeqHist := ⟨.empty 0⟩

/-- Whether the number is a duplicate; if not, it is remembered. -/
def SeqHist.duplicate (h : SeqHist) (seq : UInt8) : Bool × SeqHist :=
  if h.ring.contains seqHistLen seq then (true, h) else (false, ⟨h.ring.push seqHistLen seq⟩)

/-- A history that holds the numbers `xs` answers and remembers accordingly. -/
theorem SeqHist.duplicate_spec {h : SeqHist} {xs : List UInt8} (hx : h.ring.Holds seqHistLen xs)
    (seq : UInt8) :
    ((h.duplicate seq).1 = true ↔ seq ∈ xs) ∧
      (h.duplicate seq).2.ring.Holds seqHistLen
        (if seq ∈ xs then xs else (seq :: xs).take seqHistLen) := by
  rw [duplicate]
  by_cases hmem : seq ∈ xs
  · rw [if_pos (hx.contains_iff.mpr hmem), if_pos hmem]
    exact ⟨iff_of_true rfl hmem, hx⟩
  · rw [if_neg fun hc ↦ hmem (hx.contains_iff.mp hc), if_neg hmem]
    exact ⟨iff_of_false (by simp) hmem, hx.push seq⟩

/-! ## Frames -/

structure MavlinkSeqKey where
  sysID : UInt8
  compID : UInt8
  deriving DecidableEq, Repr

/-- A frame with the channel it came on. -/
structure Px4Frame where
  channel : Option Channel
  sysID : UInt8
  compID : UInt8
  seq : UInt8
  /-- The autopilot field, when the message is a heartbeat. -/
  heartbeat : Option UInt8
  deriving DecidableEq, Repr

def Px4Frame.key (f : Px4Frame) : MavlinkSeqKey := ⟨f.sysID, f.compID⟩

def mavAutopilotPX4 : UInt8 := 12

def isPX4AutopilotHeartbeat (sysID compID : UInt8) : Option UInt8 → Bool
  | none => false
  | some autopilot =>
    if sysID = 0 ∨ sysID = 255 ∨ compID ≠ 1 then false else autopilot = mavAutopilotPX4

/-! ## The receiver -/

inductive Verdict
  /-- It came on a link that was not active. -/
  | notActive
  /-- It came from a simulator or ground station. -/
  | sysID255
  | duplicate
  | accepted
  deriving DecidableEq, Repr

/-- What `observe` answers about a frame, with the ghosts of the moment it read them. -/
structure Observed where
  frame : Px4Frame
  link : LinkID
  forward : Bool
  gen : ℕ
  active : LinkID
  /-- Ghost: the number of link changes so far. -/
  period : ℕ
  deriving DecidableEq, Repr

inductive ReceiverPc
  | idle
  | identified (frame : Px4Frame) (link : LinkID)
  | stored (frame : Px4Frame) (link : LinkID)
  | noted (frame : Px4Frame) (link : LinkID)
  | observed (o : Observed)
  deriving DecidableEq, Repr

structure Receiver where
  pc : ReceiverPc
  /-- The generation the history belongs to: a `uint64`, as `Px4Arbiter.gen` is. -/
  linkGen : ℕ
  lastSeqNum : MavlinkSeqKey → Option SeqHist

/-- The second critical section of `observe`. -/
def Px4Arbiter.storeChannel (a : Px4Arbiter) (id : LinkID) (c : Option Channel) : Px4Arbiter :=
  if id ≠ .none ∧ c ≠ none then { a with ch := fun i ↦ if i = id then c else a.ch i } else a

/-- The history after the generation of an observation is known: a new one clears it. -/
def Receiver.sync (r : Receiver) (gen : ℕ) : Receiver :=
  if gen ≠ r.linkGen then { r with linkGen := gen, lastSeqNum := fun _ ↦ none } else r

/-- The checks of `receiveAndForward` on an observed frame. -/
def Receiver.judge (r : Receiver) (o : Observed) : Verdict × Receiver :=
  if !o.forward then (.notActive, r)
  else if o.frame.sysID = 255 then (.sysID255, r)
  else
    let next := ((r.lastSeqNum o.frame.key).getD .zero).duplicate o.frame.seq
    (if next.1 then .duplicate else .accepted,
      { r with
        lastSeqNum := fun k ↦ if k = o.frame.key then some next.2 else r.lastSeqNum k })

/-! ## Runs -/

/-- The arbiter, the receiver and the ghosts. The log is newest first. -/
structure DedupRun where
  link : LinkRun
  recv : Receiver
  period : ℕ
  log : List (Observed × Verdict)

inductive DedupEvent
  | link (e : LinkEvent)
  | arrive (frame : Px4Frame)
  | store
  | note (now : ℕ)
  | read
  | process
  deriving DecidableEq, Repr

namespace DedupRun

variable (s : DedupRun)

/-- Replace the arbiter, and count a change of the active link. -/
def setLink (link : LinkRun) : DedupRun :=
  { s with
    link := link
    period := if link.arb.snap.active = s.link.arb.snap.active then s.period else s.period + 1 }

def setArb (arb : Px4Arbiter) : DedupRun := s.setLink { s.link with arb := arb }

def setPc (pc : ReceiverPc) : DedupRun := { s with recv := { s.recv with pc := pc } }

/-- What `observe` reads in its last critical section. -/
def observed (frame : Px4Frame) (link : LinkID) : Observed where
  frame := frame
  link := link
  forward := link ≠ .none && link = s.link.arb.snap.active
  gen := s.link.arb.gen
  active := s.link.arb.snap.active
  period := s.period

/-- The receiver handles an observed frame. -/
def process (o : Observed) : DedupRun :=
  let next := (s.recv.sync o.gen).judge o
  { s with recv := { next.2 with pc := .idle }, log := (o, next.1) :: s.log }

end DedupRun

def dedupMachine : Machine DedupRun DedupEvent where
  step s
    | .link e => (linkMachine.step s.link e).map s.setLink
    | .arrive frame =>
      match s.recv.pc with
      | .idle => some (s.setPc (.identified frame (s.link.arb.identify frame.channel)))
      | _ => none
    | .store =>
      match s.recv.pc with
      | .identified frame id =>
        some ((s.setArb (s.link.arb.storeChannel id frame.channel)).setPc (.stored frame id))
      | _ => none
    | .note now =>
      match s.recv.pc with
      | .stored frame id =>
        let arb := if isPX4AutopilotHeartbeat frame.sysID frame.compID frame.heartbeat then
          s.link.arb.noteHeartbeat id now else s.link.arb
        some ((s.setArb arb).setPc (.noted frame id))
      | _ => none
    | .read =>
      match s.recv.pc with
      | .noted frame id => some (s.setPc (.observed (s.observed frame id)))
      | _ => none
    | .process =>
      match s.recv.pc with
      | .observed o => some (s.process o)
      | _ => none

/-- A run starts with an arbiter at its start and a receiver that has seen nothing. -/
structure DedupRun.Init (s : DedupRun) : Prop where
  link : s.link.Init
  pc : s.recv.pc = .idle
  linkGen : s.recv.linkGen = 0
  lastSeqNum : ∀ k, s.recv.lastSeqNum k = none
  period : s.period = 0
  log : s.log = []

def DedupRun.start (now : ℕ) : DedupRun := ⟨.start now, ⟨.idle, 0, fun _ ↦ none⟩, 0, []⟩

/-! ## What the history stands for -/

/-- The sequence numbers last accepted for a key under a generation, newest first. -/
def recentGen (log : List (Observed × Verdict)) (k : MavlinkSeqKey) (gen : ℕ) : List UInt8 :=
  ((log.filter fun e ↦ e.2 = .accepted ∧ e.1.frame.key = k ∧ e.1.gen = gen).map
    fun e ↦ e.1.frame.seq).take seqHistLen

/-- The verdict on a frame, given the numbers it is compared with. -/
def verdictOf (o : Observed) (recent : List UInt8) : Verdict :=
  if !o.forward then .notActive
  else if o.frame.sysID = 255 then .sysID255
  else if o.frame.seq ∈ recent then .duplicate
  else .accepted

/-- Every frame was compared with what had been accepted under its generation before it. -/
def Judged : List (Observed × Verdict) → Prop
  | [] => True
  | e :: earlier =>
    e.2 = verdictOf e.1 (recentGen earlier e.1.frame.key e.1.gen) ∧ Judged earlier

theorem recentGen_cons (e : Observed × Verdict) (log : List (Observed × Verdict))
    (k : MavlinkSeqKey) (gen : ℕ) :
    recentGen (e :: log) k gen =
      if e.2 = .accepted ∧ e.1.frame.key = k ∧ e.1.gen = gen then
        (e.1.frame.seq :: recentGen log k gen).take seqHistLen
      else recentGen log k gen := by
  rw [recentGen, recentGen, List.filter_cons]
  split
  case isTrue hcond =>
    rw [if_pos (of_decide_eq_true hcond), List.map_cons, seqHistLen, List.take_succ_cons,
      List.take_succ_cons, List.take_take, Nat.min_eq_left (by decide)]
  case isFalse hcond => rw [if_neg fun h ↦ hcond (decide_eq_true h)]

/-- Nothing was accepted under a generation nobody has seen. -/
theorem recentGen_eq_nil {log : List (Observed × Verdict)} {gen : ℕ}
    (h : ∀ e ∈ log, e.1.gen ≠ gen) (k : MavlinkSeqKey) : recentGen log k gen = [] := by
  have hfilter : (log.filter fun e ↦ e.2 = .accepted ∧ e.1.frame.key = k ∧ e.1.gen = gen) = [] := by
    refine List.filter_eq_nil_iff.mpr fun e he hcond ↦ ?_
    exact h e he (of_decide_eq_true hcond).2.2
  rw [recentGen, hfilter]
  rfl

/-- The receiver's history holds what the log says. -/
def Receiver.Remembers (r : Receiver) (log : List (Observed × Verdict)) : Prop :=
  ∀ k, ((r.lastSeqNum k).getD .zero).ring.Holds seqHistLen (recentGen log k r.linkGen)

variable {r : Receiver} {log : List (Observed × Verdict)} {o : Observed}

theorem Receiver.sync_linkGen (gen : ℕ) : (r.sync gen).linkGen = gen := by
  rw [sync]
  split
  case isTrue => rfl
  case isFalse heq => exact (not_not.mp heq).symm

/-- Taking over a generation that is not older keeps history and log together. -/
theorem Receiver.Remembers.sync (h : r.Remembers log) (hlog : ∀ e ∈ log, e.1.gen ≤ r.linkGen)
    {gen : ℕ} (hgen : r.linkGen ≤ gen) : (r.sync gen).Remembers log := by
  rw [Receiver.sync]
  split
  case isFalse => exact h
  case isTrue hne =>
    intro k
    have hnil : recentGen log k gen = [] := by
      refine recentGen_eq_nil (fun e he ↦ ?_) k
      have := hlog e he
      omega
    dsimp only
    rw [hnil]
    exact RingBuf.holds_empty (by decide) 0

/-- A frame that is not accepted leaves what is remembered alone. -/
theorem recentGen_cons_of_ne {v : Verdict} (hv : v ≠ .accepted) (k : MavlinkSeqKey) (gen : ℕ) :
    recentGen ((o, v) :: log) k gen = recentGen log k gen := by
  rw [recentGen_cons, if_neg fun h ↦ hv h.1]

/-- The verdict compares the frame with the log, and the history follows. -/
theorem Receiver.Remembers.judge (h : r.Remembers log) (hgen : o.gen = r.linkGen) :
    (r.judge o).1 = verdictOf o (recentGen log o.frame.key o.gen) ∧
      (r.judge o).2.linkGen = r.linkGen ∧
      (r.judge o).2.Remembers ((o, (r.judge o).1) :: log) := by
  rw [Receiver.judge, verdictOf]
  by_cases hfwd : (!o.forward) = true
  · rw [if_pos hfwd, if_pos hfwd]
    refine ⟨rfl, rfl, fun k ↦ ?_⟩
    rw [recentGen_cons_of_ne (by simp)]
    exact h k
  rw [if_neg hfwd, if_neg hfwd]
  by_cases hsys : o.frame.sysID = 255
  · rw [if_pos hsys, if_pos hsys]
    refine ⟨rfl, rfl, fun k ↦ ?_⟩
    rw [recentGen_cons_of_ne (by simp)]
    exact h k
  rw [if_neg hsys, if_neg hsys, hgen]
  obtain ⟨hdup, hnext⟩ := SeqHist.duplicate_spec (h o.frame.key) o.frame.seq
  dsimp only
  refine ⟨?_, rfl, fun k ↦ ?_⟩
  · by_cases hmem : o.frame.seq ∈ recentGen log o.frame.key r.linkGen
    · rw [if_pos (hdup.mpr hmem), if_pos hmem]
    · rw [if_neg fun hd ↦ hmem (hdup.mp hd), if_neg hmem]
  · dsimp only
    by_cases hk : k = o.frame.key
    · subst hk
      rw [if_pos rfl, Option.getD_some, recentGen_cons]
      by_cases hmem : o.frame.seq ∈ recentGen log o.frame.key r.linkGen
      · rw [if_pos hmem] at hnext
        rw [if_pos (hdup.mpr hmem), if_neg fun hc ↦ absurd hc.1 (by simp)]
        exact hnext
      · rw [if_neg hmem] at hnext
        rw [if_neg fun hd ↦ hmem (hdup.mp hd), if_pos ⟨rfl, rfl, hgen⟩]
        exact hnext
    · rw [if_neg hk, recentGen_cons, if_neg fun hc ↦ hk hc.2.1.symm]
      exact h k

/-! ## The invariant -/

/-- What an observation says about the moment it was made: `act` is the active link of each
period. -/
structure Observed.Seen (g₀ : ℕ) (act : ℕ → LinkID) (period : ℕ) (o : Observed) : Prop where
  gen : o.gen = g₀ + o.period
  period_le : o.period ≤ period
  active : o.active = act o.period
  forward : o.forward = (o.link ≠ .none && o.link = o.active)

structure DedupInv (g₀ : ℕ) (act : ℕ → LinkID) (s : DedupRun) : Prop where
  link : s.link.Inv
  gen : s.link.arb.gen = g₀ + s.period
  active : s.link.arb.snap.active = act s.period
  /-- The receiver never knows a generation that is still to come. -/
  linkGen_le : s.recv.linkGen ≤ s.link.arb.gen
  pc : ∀ o, s.recv.pc = .observed o → o.Seen g₀ act s.period ∧ s.recv.linkGen ≤ o.gen
  log : ∀ e ∈ s.log, e.1.Seen g₀ act s.period ∧ e.1.gen ≤ s.recv.linkGen
  hist : s.recv.Remembers s.log
  judged : Judged s.log

theorem Observed.Seen.mono {g₀ : ℕ} {act act' : ℕ → LinkID} {p p' : ℕ}
    (h : o.Seen g₀ act p) (hp : p ≤ p') (hact : ∀ q ≤ p, act' q = act q) : o.Seen g₀ act' p' :=
  ⟨h.gen, Nat.le_trans h.period_le hp, by rw [hact _ h.period_le, h.active], h.forward⟩

section Steps

variable {g₀ : ℕ} {act : ℕ → LinkID} {s s' : DedupRun}

/-- The arbiter moves: either the link changes and the generation counts it, or neither does. -/
theorem DedupInv.setLink (h : DedupInv g₀ act s) {link : LinkRun} (hinv : link.Inv)
    (hmove : (link.arb.snap.active ≠ s.link.arb.snap.active ∧
        link.arb.gen = s.link.arb.gen + 1) ∨
      (link.arb.snap.active = s.link.arb.snap.active ∧ link.arb.gen = s.link.arb.gen)) :
    ∃ act', DedupInv g₀ act' (s.setLink link) := by
  have hgen := h.gen
  have hle := h.linkGen_le
  rcases hmove with ⟨hne, hgen'⟩ | ⟨heq, hgen'⟩
  · -- A new period begins with a new active link.
    have hperiod : (s.setLink link).period = s.period + 1 := if_neg hne
    have hkeep : ∀ q ≤ s.period,
        Function.update act (s.period + 1) link.arb.snap.active q = act q :=
      fun q hq ↦ Function.update_of_ne (by omega) _ _
    have hseen : ∀ o : Observed, o.Seen g₀ act s.period →
        o.Seen g₀ (Function.update act (s.period + 1) link.arb.snap.active)
          (s.setLink link).period :=
      fun o ho ↦ ho.mono (by omega) hkeep
    refine ⟨Function.update act (s.period + 1) link.arb.snap.active, hinv, ?_, ?_, ?_, ?_, ?_,
      h.hist, h.judged⟩
    · rw [hperiod]
      change link.arb.gen = _
      omega
    · rw [hperiod, Function.update_self]
      rfl
    · change s.recv.linkGen ≤ link.arb.gen
      omega
    · intro o ho
      exact ⟨hseen o (h.pc o ho).1, (h.pc o ho).2⟩
    · intro e he
      exact ⟨hseen e.1 (h.log e he).1, (h.log e he).2⟩
  · have hperiod : (s.setLink link).period = s.period := if_pos heq
    refine ⟨act, hinv, ?_, ?_, ?_, ?_, ?_, h.hist, h.judged⟩
    · rw [hperiod, ← hgen, ← hgen']
      rfl
    · rw [hperiod, ← h.active, ← heq]
      rfl
    · change s.recv.linkGen ≤ link.arb.gen
      omega
    · rw [hperiod]
      exact h.pc
    · rw [hperiod]
      exact h.log

theorem DedupInv.setPc (h : DedupInv g₀ act s) {pc : ReceiverPc}
    (hpc : ∀ o, pc = .observed o → o.Seen g₀ act s.period ∧ s.recv.linkGen ≤ o.gen) :
    DedupInv g₀ act (s.setPc pc) :=
  ⟨h.link, h.gen, h.active, h.linkGen_le, hpc, h.log, h.hist, h.judged⟩

theorem DedupInv.seen_observed (h : DedupInv g₀ act s) (frame : Px4Frame) (id : LinkID) :
    (s.observed frame id).Seen g₀ act s.period :=
  ⟨h.gen, Nat.le_refl _, h.active, rfl⟩

theorem DedupInv.process (h : DedupInv g₀ act s) {o : Observed} (ho : s.recv.pc = .observed o) :
    DedupInv g₀ act (s.process o) := by
  obtain ⟨hseen, hgen⟩ := h.pc o ho
  have hlog : ∀ e ∈ s.log, e.1.gen ≤ s.recv.linkGen := fun e he ↦ (h.log e he).2
  have hsync := h.hist.sync hlog hgen
  have hlinkGen := @Receiver.sync_linkGen s.recv o.gen
  obtain ⟨hverdict, hkeep, hrem⟩ := hsync.judge hlinkGen.symm
  have hnew : ((s.recv.sync o.gen).judge o).2.linkGen = o.gen := hkeep.trans hlinkGen
  have hidle : ∀ o', (s.process o).recv.pc ≠ .observed o' := fun _ ↦ by simp [DedupRun.process]
  refine ⟨h.link, h.gen, h.active, ?_, fun o' ho' ↦ absurd ho' (hidle o'), ?_, hrem, hverdict,
    h.judged⟩
  · change ((s.recv.sync o.gen).judge o).2.linkGen ≤ s.link.arb.gen
    have := hseen.gen
    have := hseen.period_le
    have := h.gen
    omega
  · intro e he
    change e.1.Seen g₀ act s.period ∧ e.1.gen ≤ ((s.recv.sync o.gen).judge o).2.linkGen
    rw [hnew]
    rcases List.mem_cons.mp he with rfl | he
    · exact ⟨hseen, Nat.le_refl _⟩
    · exact ⟨(h.log e he).1, Nat.le_trans (hlog e he) hgen⟩

theorem Px4Arbiter.storeChannel_snap (a : Px4Arbiter) (id : LinkID) (c : Option Channel) :
    (a.storeChannel id c).snap = a.snap ∧ (a.storeChannel id c).gen = a.gen := by
  rw [storeChannel]
  split <;> exact ⟨rfl, rfl⟩

theorem DedupInv.storeChannel (h : DedupInv g₀ act s) (id : LinkID) (c : Option Channel) :
    ∃ act', DedupInv g₀ act' (s.setArb (s.link.arb.storeChannel id c)) := by
  obtain ⟨hsnap, hgen⟩ := s.link.arb.storeChannel_snap id c
  refine h.setLink ⟨?_, h.link.clock, ?_⟩ (.inr ⟨?_, hgen⟩)
  · exact hsnap ▸ h.link.snap
  · exact hsnap ▸ h.link.entered
  · rw [hsnap]

theorem DedupInv.link_step (h : DedupInv g₀ act s) {e : LinkEvent} {link : LinkRun}
    (hstep : linkMachine.step s.link e = some link) :
    ∃ act', DedupInv g₀ act' (s.setLink link) := by
  refine h.setLink (h.link.step_inv hstep) ?_
  rcases h.link.step_gen hstep with ⟨hne, -, hgen⟩ | hsame
  · exact .inl ⟨hne, hgen⟩
  · exact .inr hsame

/-- A heartbeat noted on the way does not touch the link either. -/
theorem DedupInv.noteHeartbeat (h : DedupInv g₀ act s) (frame : Px4Frame) (id : LinkID)
    (now : ℕ) :
    ∃ act', DedupInv g₀ act' (s.setArb
      (if isPX4AutopilotHeartbeat frame.sysID frame.compID frame.heartbeat then
        s.link.arb.noteHeartbeat id now else s.link.arb)) := by
  split
  · have hstep : linkMachine.step s.link (.noteHeartbeat id now) =
        some { s.link with arb := s.link.arb.noteHeartbeat id now } := rfl
    exact h.link_step hstep
  · exact h.setLink h.link (.inr ⟨rfl, rfl⟩)

theorem DedupInv.step (h : DedupInv g₀ act s) {e : DedupEvent}
    (hstep : dedupMachine.step s e = some s') : ∃ act', DedupInv g₀ act' s' := by
  rcases e with e | frame | _ | now | _ | _ <;> dsimp only [dedupMachine] at hstep
  case link =>
    obtain ⟨link, hlink, rfl⟩ := Option.map_eq_some_iff.mp hstep
    exact h.link_step hlink
  case arrive =>
    split at hstep
    case h_2 => exact absurd hstep (by simp)
    case h_1 =>
      rw [← Option.some.inj hstep]
      exact ⟨act, h.setPc (by simp)⟩
  case store =>
    split at hstep
    case h_2 => exact absurd hstep (by simp)
    case h_1 frame id _ =>
      rw [← Option.some.inj hstep]
      obtain ⟨act', h'⟩ := h.storeChannel id frame.channel
      exact ⟨act', h'.setPc (by simp)⟩
  case note =>
    split at hstep
    case h_2 => exact absurd hstep (by simp)
    case h_1 frame id _ =>
      rw [← Option.some.inj hstep]
      obtain ⟨act', h'⟩ := h.noteHeartbeat frame id now
      exact ⟨act', h'.setPc (by simp)⟩
  case read =>
    split at hstep
    case h_2 => exact absurd hstep (by simp)
    case h_1 frame id _ =>
      rw [← Option.some.inj hstep]
      refine ⟨act, h.setPc fun o ho ↦ ?_⟩
      rw [← ReceiverPc.observed.inj ho]
      exact ⟨h.seen_observed frame id, h.linkGen_le⟩
  case process =>
    split at hstep
    case h_2 => exact absurd hstep (by simp)
    case h_1 o ho =>
      rw [← Option.some.inj hstep]
      exact ⟨act, h.process ho⟩

theorem DedupRun.Init.dedupInv {s₀ : DedupRun} (h₀ : s₀.Init) {es : List DedupEvent}
    (hrun : dedupMachine.run s₀ es = some s) : ∃ act, DedupInv s₀.link.arb.gen act s := by
  have hstep : ∀ s e s', (∃ act, DedupInv s₀.link.arb.gen act s) →
      dedupMachine.step s e = some s' → ∃ act, DedupInv s₀.link.arb.gen act s' := by
    rintro s e s' ⟨act, h⟩ hs
    exact h.step hs
  refine Machine.invariant hstep ?_ hrun
  refine ⟨fun _ ↦ s₀.link.arb.snap.active, h₀.link.inv, ?_, rfl, ?_, ?_, ?_, ?_, ?_⟩
  · rw [h₀.period, Nat.add_zero]
  · rw [h₀.linkGen]
    exact Nat.zero_le _
  · intro o ho
    rw [h₀.pc] at ho
    exact absurd ho (by simp)
  · rw [h₀.log]
    exact fun e he ↦ absurd he List.not_mem_nil
  · intro k
    rw [h₀.lastSeqNum, h₀.log]
    exact RingBuf.holds_empty (by decide) 0
  · rw [h₀.log]
    trivial

end Steps

/-! ## Periods -/

/-- The sequence numbers last accepted for a key in one period, newest first. -/
def recentAccepted (log : List (Observed × Verdict)) (k : MavlinkSeqKey) (period : ℕ) :
    List UInt8 :=
  ((log.filter fun e ↦ e.2 = .accepted ∧ e.1.frame.key = k ∧ e.1.period = period).map
    fun e ↦ e.1.frame.seq).take seqHistLen

theorem recentGen_eq_recentAccepted {g₀ : ℕ} (h : ∀ e ∈ log, e.1.gen = g₀ + e.1.period)
    (k : MavlinkSeqKey) (period : ℕ) :
    recentGen log k (g₀ + period) = recentAccepted log k period := by
  rw [recentGen, recentAccepted]
  have hfilter : (log.filter fun e ↦
      e.2 = .accepted ∧ e.1.frame.key = k ∧ e.1.gen = g₀ + period) =
      log.filter fun e ↦ e.2 = .accepted ∧ e.1.frame.key = k ∧ e.1.period = period := by
    refine List.filter_congr fun e he ↦ ?_
    rw [h e he]
    simp
  rw [hfilter]

theorem Judged.of_append {later : List (Observed × Verdict)} (h : Judged (later ++ log)) :
    Judged log := by
  induction later with
  | nil => exact h
  | cons e later ih => exact ih h.2

theorem Judged.exists_recent (h : Judged log) {e : Observed × Verdict} (he : e ∈ log) :
    ∃ recent, e.2 = verdictOf e.1 recent := by
  induction log with
  | nil => exact absurd he List.not_mem_nil
  | cons e' earlier ih =>
    rcases List.mem_cons.mp he with rfl | he
    · exact ⟨_, h.1⟩
    · exact ih h.2 he

theorem Observed.Seen.forward_iff {g₀ : ℕ} {act : ℕ → LinkID} {p : ℕ} (h : o.Seen g₀ act p) :
    o.forward = true ↔ o.link ≠ .none ∧ o.link = o.active := by
  rw [h.forward, Bool.and_eq_true, decide_eq_true_eq, decide_eq_true_eq]

theorem verdictOf_eq_accepted {recent : List UInt8} :
    verdictOf o recent = .accepted ↔
      o.forward = true ∧ o.frame.sysID ≠ 255 ∧ o.frame.seq ∉ recent := by
  rw [verdictOf]
  grind

theorem verdictOf_eq_duplicate {recent : List UInt8} :
    verdictOf o recent = .duplicate ↔
      o.forward = true ∧ o.frame.sysID ≠ 255 ∧ o.frame.seq ∈ recent := by
  rw [verdictOf]
  grind

/-- **One copy of each frame in a period.** A frame is accepted exactly when it came on the active
link, not from system 255, with a number that is not among the last accepted ones of its system and
component. All frames accepted in one period came on one link. -/
theorem one_copy_per_period {s₀ s : DedupRun} {es : List DedupEvent} (h₀ : s₀.Init)
    (hrun : dedupMachine.run s₀ es = some s) {later earlier : List (Observed × Verdict)}
    {o : Observed} {v : Verdict} (hlog : s.log = later ++ (o, v) :: earlier) :
    (v = .accepted ↔ (o.link ≠ .none ∧ o.link = o.active) ∧ o.frame.sysID ≠ 255 ∧
      o.frame.seq ∉ recentAccepted earlier o.frame.key o.period) ∧
    (v = .duplicate ↔ (o.link ≠ .none ∧ o.link = o.active) ∧ o.frame.sysID ≠ 255 ∧
      o.frame.seq ∈ recentAccepted earlier o.frame.key o.period) ∧
    (v = .accepted → ∀ e ∈ earlier, e.2 = .accepted → e.1.period = o.period →
      e.1.link = o.link) := by
  obtain ⟨act, hinv⟩ := h₀.dedupInv hrun
  have hmem : ∀ e ∈ (o, v) :: earlier, e ∈ s.log :=
    fun e he ↦ hlog ▸ List.mem_append_right later he
  have hseen : ∀ e ∈ (o, v) :: earlier, e.1.Seen s₀.link.arb.gen act s.period :=
    fun e he ↦ (hinv.log e (hmem e he)).1
  have ho := hseen (o, v) List.mem_cons_self
  have hjudged : Judged ((o, v) :: earlier) := (hlog ▸ hinv.judged).of_append
  have hrecent := recentGen_eq_recentAccepted
    (fun e he ↦ (hseen e (List.mem_cons_of_mem _ he)).gen) o.frame.key o.period
  have hv : v = verdictOf o (recentAccepted earlier o.frame.key o.period) := by
    rw [← hrecent, ← ho.gen]
    exact hjudged.1
  have haccepted : ∀ e ∈ (o, v) :: earlier, e.2 = .accepted → e.1.link = e.1.active := by
    intro e he hacc
    obtain ⟨recent, hrec⟩ := hinv.judged.exists_recent (hmem e he)
    exact ((hseen e he).forward_iff.mp (verdictOf_eq_accepted.mp (hrec ▸ hacc)).1).2
  rw [← ho.forward_iff]
  refine ⟨?_, ?_, fun hacc e he hacc' hperiod ↦ ?_⟩
  · rw [hv, verdictOf_eq_accepted]
  · rw [hv, verdictOf_eq_duplicate]
  · have he' : e ∈ (o, v) :: earlier := List.mem_cons_of_mem _ he
    rw [haccepted e he' hacc', haccepted (o, v) List.mem_cons_self hacc, (hseen e he').active,
      hperiod]
    exact ho.active.symm

/-- A frame comes on Ethernet and again on TELEM2; the second copy is not forwarded. -/
theorem one_copy_per_period_backup :
    ∃ s later earlier o v, dedupMachine.run (.start 1)
        [.arrive ⟨some ⟨1, some .custom⟩, 1, 1, 7, none⟩, .store, .note 5, .read, .process,
          .arrive ⟨some ⟨2, some (.serial "/dev/ttyAMA2")⟩, 1, 1, 7, none⟩, .store, .note 6, .read,
          .process] = some s ∧
      s.log = later ++ (o, v) :: earlier ∧ o.link = .telem2 ∧ o.active = .eth ∧ v ≠ .accepted := by
  have h₀ : (DedupRun.start 1).Init :=
    ⟨LinkRun.init_start Nat.one_pos, rfl, rfl, fun _ ↦ rfl, rfl, rfl⟩
  have hrun : dedupMachine.run (.start 1)
      [.arrive ⟨some ⟨1, some .custom⟩, 1, 1, 7, none⟩, .store, .note 5, .read, .process,
        .arrive ⟨some ⟨2, some (.serial "/dev/ttyAMA2")⟩, 1, 1, 7, none⟩, .store, .note 6, .read,
        .process] = some _ := rfl
  refine ⟨_, [], _, _, _, hrun, rfl, by decide, by decide, ?_⟩
  rw [ne_eq, (@one_copy_per_period _ _ _ h₀ hrun [] _ _ _ rfl).1]
  exact fun h ↦ absurd h.1.2 (by decide)

end DroneBridge
