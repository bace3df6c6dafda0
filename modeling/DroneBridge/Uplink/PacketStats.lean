import DroneBridge.Link.Dedup
import Mathlib.Logic.Function.Basic

/-!
# The packet statistics

`receiveAndForward` counts every frame that came on the active link: once on arrival, and then where
it was dropped, or that it was accepted; and an accepted frame once more, where it was dropped or
that it was forwarded. The totals are meant to add up.

A frame of the flight controller leaves the handler by one of eight exits. Seven of them have a
counter. The eighth has none: a `GPS_RAW_INT` that the configuration withholds from the server is
accepted and then appears nowhere. `withheld` counts these frames along the events of a run. With
this number the books balance on every path.

The counters are 64-bit, and the laws are equations of 64-bit arithmetic, so they hold through an
overflow.
-/

namespace DroneBridge

/-! ## Counters -/

inductive PktCounter
  | rawIn14540
  | acceptedIn14540
  | outServerForward
  | outServerGenerated
  | dropSysID255
  | dropDuplicate
  | dropNoPixhawk
  | dropVPNNotReady
  | dropUnhealthy
  | dropSendError
  deriving DecidableEq, Repr

/-- The counters since the start, and since the last snapshot. -/
structure PktCounters where
  total : PktCounter → UInt64
  sec : PktCounter → UInt64

namespace PktCounters

def zero : PktCounters := ⟨fun _ ↦ 0, fun _ ↦ 0⟩

variable (s : PktCounters)

def inc (c : PktCounter) : PktCounters where
  total := Function.update s.total c (s.total c + 1)
  sec := Function.update s.sec c (s.sec c + 1)

def incPktRawIn14540 : PktCounters := s.inc .rawIn14540

def incPktAcceptedIn14540 : PktCounters := s.inc .acceptedIn14540

def incPktOutServerForward : PktCounters := s.inc .outServerForward

def incPktOutServerGenerated : PktCounters := s.inc .outServerGenerated

def incPktDropSysID255 : PktCounters := s.inc .dropSysID255

def incPktDropDuplicate : PktCounters := s.inc .dropDuplicate

def incPktDropNoPixhawk : PktCounters := s.inc .dropNoPixhawk

def incPktDropVPNNotReady : PktCounters := s.inc .dropVPNNotReady

def incPktDropUnhealthy : PktCounters := s.inc .dropUnhealthy

def incPktDropSendError : PktCounters := s.inc .dropSendError

/-- What was counted since the last snapshot and since the start; the former begins anew. -/
def takePktStatsSnapshot : ((PktCounter → UInt64) × (PktCounter → UInt64)) × PktCounters :=
  ((s.sec, s.total), { s with sec := fun _ ↦ 0 })

@[simp] theorem total_inc (c d : PktCounter) :
    (s.inc c).total d = if d = c then s.total c + 1 else s.total d :=
  Function.update_apply s.total c _ d

end PktCounters

/-! ## The handler -/

/-- What the handler reads of the configuration. -/
structure ForwarderConfig where
  vpnEnabled : Bool
  forwardGpsRawInt : Option Bool
  deriving DecidableEq, Repr

def mavlinkMsgGpsRawInt : UInt32 := 24

/-- Raw GPS goes to the server unless the configuration says otherwise. -/
def forwardGpsRawToServer : Option ForwarderConfig → Bool
  | none => true
  | some cfg => cfg.forwardGpsRawInt.getD true

/-- A frame with what the handler is answered while it handles it. -/
structure HandledFrame where
  observed : Observed
  msgID : UInt32
  healthy : Bool
  /-- What `IsRunning` and `GetAssignedIP` answer; `none` without a manager. -/
  vpn : Option (Bool × String)
  /-- `WriteFrameAll` returns no error. -/
  written : Bool
  deriving DecidableEq, Repr

structure PacketHandler where
  recv : Receiver
  /-- The channel `pixhawkConnected` is closed. -/
  pixhawkConnected : Bool
  counters : PktCounters

/-- VPN is enabled and the tunnel is not ready. -/
def vpnNotReady (cfg : Option ForwarderConfig) (vpn : Option (Bool × String)) : Bool :=
  cfg.any (·.vpnEnabled) && !vpn.any fun v ↦ v.1 && v.2 ≠ ""

namespace PacketHandler

variable (cfg : Option ForwarderConfig) (s : PacketHandler) (f : HandledFrame)

def start : PacketHandler := ⟨⟨.idle, 0, fun _ ↦ none⟩, false, .zero⟩

/-- What becomes of an accepted frame. -/
def forward : PacketHandler :=
  if !s.pixhawkConnected then { s with counters := s.counters.incPktDropNoPixhawk }
  else if vpnNotReady cfg f.vpn then { s with counters := s.counters.incPktDropVPNNotReady }
  else if !f.healthy then { s with counters := s.counters.incPktDropUnhealthy }
  else if f.msgID = mavlinkMsgGpsRawInt ∧ !forwardGpsRawToServer cfg then s
  else if f.written then { s with counters := s.counters.incPktOutServerForward }
  else { s with counters := s.counters.incPktDropSendError }

/-- The state in which an accepted frame is forwarded. The first accepted heartbeat closes
`pixhawkConnected`. -/
def accept : PacketHandler where
  recv := ((s.recv.sync f.observed.gen).judge f.observed).2
  pixhawkConnected := s.pixhawkConnected ||
    f.observed.frame.heartbeat.isSome && f.observed.frame.sysID ≠ 255
  counters := s.counters.incPktRawIn14540.incPktAcceptedIn14540

def handle : PacketHandler :=
  let next := (s.recv.sync f.observed.gen).judge f.observed
  match next.1 with
  | .notActive => { s with recv := next.2 }
  | .sysID255 =>
    { s with recv := next.2, counters := s.counters.incPktRawIn14540.incPktDropSysID255 }
  | .duplicate =>
    { s with recv := next.2, counters := s.counters.incPktRawIn14540.incPktDropDuplicate }
  | .accepted => (s.accept f).forward cfg f

/-- An accepted frame is a `GPS_RAW_INT` that could be sent and is not to be. -/
def holdsBack : Bool :=
  s.pixhawkConnected && !vpnNotReady cfg f.vpn && f.healthy && f.msgID = mavlinkMsgGpsRawInt &&
    !forwardGpsRawToServer cfg

end PacketHandler

inductive PacketEvent
  | frame (f : HandledFrame)
  /-- A keepalive or a message made on the companion computer was sent. -/
  | generated
  | takePktStatsSnapshot
  deriving DecidableEq, Repr

namespace PacketHandler

variable (cfg : Option ForwarderConfig) (s : PacketHandler)

def next : PacketEvent → PacketHandler
  | .frame f => s.handle cfg f
  | .generated => { s with counters := s.counters.incPktOutServerGenerated }
  | .takePktStatsSnapshot => { s with counters := s.counters.takePktStatsSnapshot.2 }

/-- The event is an accepted frame that is withheld from the server. -/
def withholds : PacketEvent → Bool
  | .frame f => ((s.recv.sync f.observed.gen).judge f.observed).1 = .accepted &&
      (s.accept f).holdsBack cfg f
  | _ => false

end PacketHandler

def packetMachine (cfg : Option ForwarderConfig) : Machine PacketHandler PacketEvent where
  step s e := some (s.next cfg e)

/-- How many frames of a run are withheld from the server. -/
def withheld (cfg : Option ForwarderConfig) : PacketHandler → List PacketEvent → ℕ
  | _, [] => 0
  | s, e :: es => (s.withholds cfg e).toNat + withheld cfg (s.next cfg e) es

/-! ## The books -/

/-- Every frame counted on arrival was dropped for its system, dropped as a duplicate, or
accepted. -/
def PktCounters.ArrivalsBalance (s : PktCounters) : Prop :=
  s.total .rawIn14540 =
    s.total .dropSysID255 + s.total .dropDuplicate + s.total .acceptedIn14540

/-- What became of accepted frames, as far as it is counted. -/
def PktCounters.settled (s : PktCounters) : UInt64 :=
  s.total .outServerForward + s.total .dropNoPixhawk + s.total .dropVPNNotReady +
    s.total .dropUnhealthy + s.total .dropSendError

/-- The counter is one that an accepted frame can end in. -/
def PktCounter.settles : PktCounter → Bool
  | .outServerForward | .dropNoPixhawk | .dropVPNNotReady | .dropUnhealthy | .dropSendError => true
  | _ => false

namespace PktCounters

variable {s : PktCounters}

theorem settled_inc (c : PktCounter) :
    (s.inc c).settled = if c.settles then s.settled + 1 else s.settled := by
  rcases c <;> simp only [settled, total_inc, PktCounter.settles, reduceCtorEq, if_true, if_false,
    Bool.false_eq_true] <;> grind

/-- Counting what becomes of an accepted frame, or a generated packet, is no arrival. -/
theorem ArrivalsBalance.inc (h : s.ArrivalsBalance) {c : PktCounter}
    (hc : c.settles = true ∨ c = .outServerGenerated) : (s.inc c).ArrivalsBalance := by
  rw [ArrivalsBalance] at *
  rcases c <;> simp [PktCounter.settles] at hc <;> simpa using h

theorem ArrivalsBalance.arrive (h : s.ArrivalsBalance) {c : PktCounter}
    (hc : c = .dropSysID255 ∨ c = .dropDuplicate ∨ c = .acceptedIn14540) :
    (s.incPktRawIn14540.inc c).ArrivalsBalance := by
  rw [ArrivalsBalance, incPktRawIn14540] at *
  rcases hc with rfl | rfl | rfl <;> simp only [total_inc, reduceCtorEq, if_true, if_false, h] <;>
    grind

end PktCounters

/-- The invariant: the books balance when `n` more frames are booked. -/
structure PacketHandler.Balanced (s : PacketHandler) (n : ℕ) : Prop where
  arrivals : s.counters.ArrivalsBalance
  accepted : s.counters.total .acceptedIn14540 = s.counters.settled + UInt64.ofNat n

namespace PacketHandler

variable {cfg : Option ForwarderConfig} {s s' : PacketHandler} {f : HandledFrame} {n : ℕ}

/-- An accepted frame ends in one of five counters, or it is withheld. -/
theorem forward_cases (cfg : Option ForwarderConfig) (s : PacketHandler) (f : HandledFrame) :
    (∃ c : PktCounter, c.settles = true ∧
      s.forward cfg f = { s with counters := s.counters.inc c } ∧ s.holdsBack cfg f = false) ∨
    s.forward cfg f = s ∧ s.holdsBack cfg f = true := by
  -- The exits in the order of the checks. All but the fourth have a counter.
  rw [forward, holdsBack]
  split
  case isTrue h => exact .inl ⟨.dropNoPixhawk, rfl, rfl, by simp_all⟩
  split
  case isTrue h => exact .inl ⟨.dropVPNNotReady, rfl, rfl, by simp [h]⟩
  split
  case isTrue h => exact .inl ⟨.dropUnhealthy, rfl, rfl, by simp_all⟩
  split
  case isTrue h => exact .inr ⟨rfl, by simp_all⟩
  case isFalse h =>
    have hfree :
        (decide (f.msgID = mavlinkMsgGpsRawInt) && !forwardGpsRawToServer cfg) = false := by
      simpa using h
    split
    · exact .inl ⟨.outServerForward, rfl, rfl, by rw [Bool.and_assoc, hfree, Bool.and_false]⟩
    · exact .inl ⟨.dropSendError, rfl, rfl, by rw [Bool.and_assoc, hfree, Bool.and_false]⟩

/-- The frame that is forwarded is booked then, unless it is withheld. -/
theorem Balanced.forward (h : s.Balanced (n + 1)) :
    (s.forward cfg f).Balanced (n + (s.holdsBack cfg f).toNat) := by
  rcases forward_cases cfg s f with ⟨c, hc, hf, hback⟩ | ⟨hf, hback⟩ <;> rw [hf, hback]
  · refine ⟨h.arrivals.inc (.inl hc), ?_⟩
    -- The counter of accepted frames is not one that settles.
    have hne : PktCounter.acceptedIn14540 ≠ c := by
      rintro rfl
      exact absurd hc (by decide)
    dsimp only [Bool.toNat_false]
    rw [PktCounters.settled_inc, if_pos hc, PktCounters.total_inc, if_neg hne, h.accepted,
      UInt64.ofNat_add]
    grind
  · exact h

/-- A frame dropped on arrival does not touch the books of accepted frames. -/
theorem Balanced.drop (h : s.Balanced n) (recv : Receiver) {c : PktCounter}
    (hc : c = .dropSysID255 ∨ c = .dropDuplicate) :
    Balanced { s with recv := recv, counters := s.counters.incPktRawIn14540.inc c } n := by
  refine ⟨h.arrivals.arrive (hc.imp_right .inl), ?_⟩
  rcases hc with rfl | rfl <;>
    simp [PktCounters.incPktRawIn14540, PktCounters.settled_inc, PktCounter.settles, h.accepted]

theorem Balanced.accept (h : s.Balanced n) : (s.accept f).Balanced (n + 1) := by
  refine ⟨h.arrivals.arrive (.inr (.inr rfl)), ?_⟩
  simp [PacketHandler.accept, PktCounters.incPktRawIn14540, PktCounters.incPktAcceptedIn14540,
    PktCounters.settled_inc, PktCounter.settles, h.accepted, UInt64.add_assoc]

theorem Balanced.handle (h : s.Balanced n) :
    (s.handle cfg f).Balanced (n + (s.withholds cfg (.frame f)).toNat) := by
  rw [PacketHandler.handle, withholds]
  split <;> rename_i hverdict <;> rw [hverdict]
  · exact ⟨h.arrivals, h.accepted⟩
  · exact h.drop _ (.inl rfl)
  · exact h.drop _ (.inr rfl)
  · exact h.accept.forward

theorem Balanced.next (h : s.Balanced n) (e : PacketEvent) :
    (s.next cfg e).Balanced (n + (s.withholds cfg e).toNat) := by
  rcases e with f | _ | _
  · exact h.handle
  · refine ⟨h.arrivals.inc (.inr rfl), ?_⟩
    simp [PacketHandler.next, withholds, PktCounters.incPktOutServerGenerated,
      PktCounters.settled_inc, PktCounter.settles, h.accepted]
  · exact ⟨h.arrivals, h.accepted⟩

/-- The run: what is not booked is what the run withholds. -/
theorem Balanced.run (h : s.Balanced n) {es : List PacketEvent}
    (hrun : (packetMachine cfg).run s es = some s') : s'.Balanced (n + withheld cfg s es) := by
  induction es generalizing s n with
  | nil =>
    rw [← Option.some.inj hrun]
    exact h
  | cons e es ih =>
    rw [withheld, ← Nat.add_assoc]
    exact ih (h.next e) hrun

/-- Nothing is withheld when the configuration lets raw GPS through. -/
theorem withheld_eq_zero (hgps : forwardGpsRawToServer cfg = true) (s : PacketHandler)
    (es : List PacketEvent) : withheld cfg s es = 0 := by
  induction es generalizing s with
  | nil => rfl
  | cons e es ih =>
    have hnone : s.withholds cfg e = false := by
      rcases e with f | _ | _ <;> simp [withholds, holdsBack, hgps]
    rw [withheld, hnone, ih]
    rfl

end PacketHandler

/-- **The packet statistics.** Every frame counted on arrival was dropped for its system, dropped as
a duplicate, or accepted. The accepted ones are those forwarded or dropped later exactly when no
frame was withheld, up to 64 bits. -/
theorem packet_totals_balance_iff {cfg : Option ForwarderConfig} {es : List PacketEvent}
    {s : PacketHandler} (hrun : (packetMachine cfg).run .start es = some s) :
    s.counters.total .rawIn14540 = s.counters.total .dropSysID255 +
      s.counters.total .dropDuplicate + s.counters.total .acceptedIn14540 ∧
    (s.counters.total .acceptedIn14540 = s.counters.total .outServerForward +
        s.counters.total .dropNoPixhawk + s.counters.total .dropVPNNotReady +
        s.counters.total .dropUnhealthy + s.counters.total .dropSendError ↔
      UInt64.ofNat (withheld cfg .start es) = 0) ∧
    (forwardGpsRawToServer cfg = true → withheld cfg .start es = 0) := by
  have h₀ : PacketHandler.start.Balanced 0 := ⟨rfl, rfl⟩
  have hbal := h₀.run hrun
  refine ⟨hbal.arrivals, ?_, fun hgps ↦ PacketHandler.withheld_eq_zero hgps _ _⟩
  have haccepted := hbal.accepted
  rw [PktCounters.settled, Nat.zero_add] at haccepted
  grind

def givenHeartbeat : PacketEvent :=
  .frame ⟨⟨⟨none, 1, 1, 0, some 12⟩, .eth, true, 1, .eth, 1⟩, 0, true, none, true⟩

/-- A heartbeat is forwarded, and its copy is a duplicate. -/
theorem packet_totals_balance_copy :
    ∃ s, (packetMachine none).run .start [givenHeartbeat, givenHeartbeat] = some s ∧
      s.counters.total .outServerForward = 1 ∧ s.counters.total .dropDuplicate = 1 ∧
      withheld none .start [givenHeartbeat, givenHeartbeat] = 0 := by
  have hrun : (packetMachine none).run .start [givenHeartbeat, givenHeartbeat] = some _ := rfl
  exact ⟨_, hrun, rfl, rfl, (packet_totals_balance_iff hrun).2.2 rfl⟩

/-- With `forward_gps_raw_int: false`, a heartbeat and a `GPS_RAW_INT`: two frames are accepted,
one is forwarded, and no counter has the other. -/
theorem gps_raw_int_disappears :
    ∃ s, (packetMachine (some ⟨false, some false⟩)).run .start
        [givenHeartbeat,
          .frame ⟨⟨⟨none, 1, 1, 1, none⟩, .eth, true, 1, .eth, 1⟩, 24, true, none, true⟩] =
        some s ∧
      s.counters.total .acceptedIn14540 = 2 ∧ s.counters.total .outServerForward = 1 ∧
      s.counters.total .dropNoPixhawk + s.counters.total .dropVPNNotReady +
        s.counters.total .dropUnhealthy + s.counters.total .dropSendError = 0 :=
  ⟨_, rfl, rfl, rfl, rfl⟩

end DroneBridge
