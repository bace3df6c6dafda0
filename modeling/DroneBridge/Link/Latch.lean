import DroneBridge.Link.Dedup

/-!
# The latched system id

The receiver tells the web bridge the system id of every heartbeat it accepts, and the bridge keeps
the first one for good. Loop prevention, the id of outgoing frames and the target of parameter
requests rest on it. The test for a heartbeat of the PX4 autopilot guards only the arbiter's clock:
neither the receiver nor the bridge asks for it, so the first heartbeat of any component on the
active link decides.
-/

namespace DroneBridge

/-- The part of the web bridge that heartbeats write. -/
structure MAVLinkBridge where
  pixhawkSysID : UInt8
  connected : Bool
  deriving DecidableEq, Repr

def MAVLinkBridge.new : MAVLinkBridge := ⟨0, false⟩

def MAVLinkBridge.handleHeartbeat (b : MAVLinkBridge) (sysID : UInt8) : MAVLinkBridge :=
  if !b.connected then ⟨sysID, true⟩ else b

/-- The id in use: one before there is a bridge, zero before the first heartbeat. -/
def getPixhawkSystemID : Option MAVLinkBridge → UInt8
  | none => 1
  | some b => b.pixhawkSysID

def resolveOutSystemID (bridge : Option MAVLinkBridge) : UInt8 :=
  if getPixhawkSystemID bridge ≠ 0 then getPixhawkSystemID bridge else 1

/-- The first rule of loop prevention: a frame from the server that the drone itself has sent. -/
def isOwnFrame (bridge : Option MAVLinkBridge) (sysID : UInt8) : Bool :=
  getPixhawkSystemID bridge ≠ 0 && sysID = getPixhawkSystemID bridge

/-! ## Runs -/

/-- The heartbeat the receiver passes on, if a handled frame is one. -/
def passedHeartbeat (e : Observed × Verdict) : Option Px4Frame :=
  if e.2 = .accepted ∧ e.1.frame.heartbeat.isSome ∧ e.1.frame.sysID ≠ 255 then some e.1.frame
  else none

structure LatchRun where
  dedup : DedupRun
  bridge : Option MAVLinkBridge
  /-- Ghost: how many frames had been handled when the bridge was made. -/
  before : ℕ

inductive LatchEvent
  | initBridge
  | dedup (e : DedupEvent)
  deriving DecidableEq, Repr

namespace LatchRun

variable (s : LatchRun)

/-- `HandleHeartbeat` on a frame that is passed on. -/
def hear (frame : Px4Frame) : LatchRun :=
  match s.bridge with
  | none => s
  | some b => { s with bridge := some (b.handleHeartbeat frame.sysID) }

/-- The receiver has handled a frame. -/
def afterProcess : LatchRun :=
  match s.dedup.log.head?.bind passedHeartbeat with
  | none => s
  | some frame => s.hear frame

def initBridge : LatchRun :=
  match s.bridge with
  | none => { s with bridge := some .new, before := s.dedup.log.length }
  | some _ => s

def start (now : ℕ) : LatchRun := ⟨.start now, none, 0⟩

/-- A run starts without a bridge. -/
structure Init : Prop where
  dedup : s.dedup.Init
  bridge : s.bridge = none

/-- The heartbeats in the log that were passed on since there is a bridge, newest first. -/
def heard : List Px4Frame :=
  (s.dedup.log.take (s.dedup.log.length - s.before)).filterMap passedHeartbeat

end LatchRun

def latchMachine : Machine LatchRun LatchEvent where
  step s
    | .initBridge => some s.initBridge
    | .dedup e => (dedupMachine.step s.dedup e).map fun d ↦
      if e = .process then { s with dedup := d }.afterProcess else { s with dedup := d }

/-! ## The first heartbeat decides -/

/-- The bridge as the heartbeats heard leave it. -/
def MAVLinkBridge.ofHeard (heard : List Px4Frame) : MAVLinkBridge :=
  match heard.getLast? with
  | none => .new
  | some first => ⟨first.sysID, true⟩

theorem MAVLinkBridge.ofHeard_cons (frame : Px4Frame) (heard : List Px4Frame) :
    ofHeard (frame :: heard) = (ofHeard heard).handleHeartbeat frame.sysID := by
  rw [ofHeard, ofHeard, List.getLast?_cons]
  cases heard.getLast? <;> rfl

/-- Only a frame that was processed is added to the log. -/
theorem dedupMachine_log {d d' : DedupRun} {e : DedupEvent} (h : dedupMachine.step d e = some d') :
    if e = .process then ∃ entry, d'.log = entry :: d.log else d'.log = d.log := by
  cases e with
  | link e =>
    obtain ⟨l, -, rfl⟩ := Option.map_eq_some_iff.mp h
    rfl
  | _ =>
    dsimp only [dedupMachine] at h
    split at h <;> cases h
    first | rfl | exact ⟨_, rfl⟩

/-- The bridge follows from the log. -/
structure LatchRun.Inv (s : LatchRun) : Prop where
  before : s.bridge ≠ none → s.before ≤ s.dedup.log.length
  bridge : ∀ b, s.bridge = some b → b = .ofHeard s.heard

namespace LatchRun.Inv

variable {s s' : LatchRun}

theorem initBridge (hs : s.Inv) : s.initBridge.Inv := by
  rw [LatchRun.initBridge]
  split
  next =>
    refine ⟨fun _ ↦ Nat.le_refl _, fun b hb ↦ ?_⟩
    obtain rfl := Option.some.inj hb
    simp [LatchRun.heard, MAVLinkBridge.ofHeard]
  next => exact hs

/-- A frame is added to the log, and the bridge hears it if it is passed on. -/
theorem afterProcess (hs : s.Inv) {d : DedupRun} {entry : Observed × Verdict}
    (hlog : d.log = entry :: s.dedup.log) :
    ({ s with dedup := d } : LatchRun).afterProcess.Inv := by
  obtain ⟨d₀, bridge, before⟩ := s
  dsimp only at hlog ⊢
  cases bridge with
  | none =>
    have hsame : (⟨d, none, before⟩ : LatchRun).afterProcess = ⟨d, none, before⟩ := by
      rw [LatchRun.afterProcess]
      split <;> rfl
    rw [hsame]
    exact ⟨fun h ↦ absurd rfl h, nofun⟩
  | some b =>
    have hle : before ≤ d₀.log.length := hs.before nofun
    have hle' : before ≤ d.log.length := by
      rw [hlog, List.length_cons]
      omega
    -- The log has one more entry, which is heard if it is a heartbeat that is passed on.
    have hheard : ∀ b', (⟨d, b', before⟩ : LatchRun).heard =
        (passedHeartbeat entry).toList ++ (⟨d₀, some b, before⟩ : LatchRun).heard := by
      intro b'
      dsimp only [LatchRun.heard]
      rw [hlog, List.length_cons, Nat.succ_sub hle, List.take_succ_cons, List.filterMap_cons]
      cases passedHeartbeat entry <;> rfl
    dsimp only [LatchRun.afterProcess]
    rw [hlog, List.head?_cons, Option.bind_some]
    cases hpassed : passedHeartbeat entry with
    | none =>
      refine ⟨fun _ ↦ hle', fun b' hb' ↦ ?_⟩
      rw [hheard, hpassed]
      exact hs.bridge b' hb'
    | some frame =>
      refine ⟨fun _ ↦ hle', fun b' hb' ↦ ?_⟩
      obtain rfl := Option.some.inj hb'
      dsimp only [LatchRun.hear]
      rw [hheard, hpassed, hs.bridge b rfl]
      exact (MAVLinkBridge.ofHeard_cons _ _).symm

theorem step (hs : s.Inv) {e : LatchEvent} (h : latchMachine.step s e = some s') : s'.Inv := by
  cases e with
  | initBridge =>
    obtain rfl := Option.some.inj h
    exact hs.initBridge
  | dedup e =>
    obtain ⟨d, hd, rfl⟩ := Option.map_eq_some_iff.mp h
    have hlog := dedupMachine_log hd
    by_cases he : e = .process
    · rw [if_pos he] at hlog ⊢
      obtain ⟨entry, hlog⟩ := hlog
      exact hs.afterProcess hlog
    · rw [if_neg he] at hlog ⊢
      exact ⟨fun hb ↦ by rw [hlog]; exact hs.before hb,
        fun b hb ↦ by rw [LatchRun.heard, hlog]; exact hs.bridge b hb⟩

theorem of_run {s₀ : LatchRun} (h₀ : s₀.Init) {es : List LatchEvent}
    (hrun : latchMachine.run s₀ es = some s) : s.Inv := by
  refine Machine.invariant (fun _ _ _ hs h ↦ hs.step h) ⟨fun hb ↦ absurd h₀.bridge hb,
    fun b hb ↦ ?_⟩ hrun
  rw [h₀.bridge] at hb
  exact nomatch hb

end LatchRun.Inv

/-- The systems of which a handled frame was a heartbeat of the PX4 autopilot. -/
def px4Systems (log : List (Observed × Verdict)) : List UInt8 :=
  (log.filter fun e ↦
    isPX4AutopilotHeartbeat e.1.frame.sysID e.1.frame.compID e.1.frame.heartbeat).map
      fun e ↦ e.1.frame.sysID

/-- **Latch.** The latched id is that of the first heartbeat passed on since there is a bridge. So
it belongs to a PX4 autopilot if and only if the system of that heartbeat has sent one of the PX4
autopilot. -/
theorem latched_px4_iff {s₀ s : LatchRun} {es : List LatchEvent} {b : MAVLinkBridge}
    (h₀ : s₀.Init) (hrun : latchMachine.run s₀ es = some s) (hb : s.bridge = some b)
    (hconn : b.connected = true) :
    b.pixhawkSysID ∈ px4Systems s.dedup.log ↔
      ∃ first, s.heard.getLast? = some first ∧ first.sysID ∈ px4Systems s.dedup.log := by
  have hlatch := (LatchRun.Inv.of_run h₀ hrun).bridge b hb
  rw [MAVLinkBridge.ofHeard] at hlatch
  cases hfirst : s.heard.getLast? with
  | none =>
    rw [hfirst] at hlatch
    rw [hlatch] at hconn
    exact nomatch hconn
  | some first =>
    rw [hfirst] at hlatch
    rw [hlatch]
    constructor
    · intro hmem
      exact ⟨first, rfl, hmem⟩
    · rintro ⟨first', hfirst', hmem⟩
      rwa [Option.some.inj hfirst']

/-- The steps of the receiver on one frame. -/
def handleFrame (frame : Px4Frame) : List LatchEvent :=
  [.arrive frame, .store, .note 5, .read, .process].map .dedup

/-- A heartbeat of the PX4 autopilot of system 1, on Ethernet. -/
def px4Heartbeat (seq : UInt8) : Px4Frame := ⟨some ⟨1, some .custom⟩, 1, 1, seq, some 12⟩

/-- A heartbeat of a gimbal that is a system of its own, on Ethernet. -/
def gimbalHeartbeat (sysID seq : UInt8) : Px4Frame :=
  ⟨some ⟨1, some .custom⟩, sysID, 154, seq, some 8⟩

/-- The gimbal is heard first. Its id stays latched after the autopilot's heartbeat: frames go out
under it, and loop prevention lets frames of the autopilot pass. -/
theorem gimbal_latched :
    ∃ s, latchMachine.run (.start 1)
        (.initBridge :: handleFrame (gimbalHeartbeat 42 0) ++ handleFrame (px4Heartbeat 0)) =
        some s ∧
      s.bridge = some ⟨42, true⟩ ∧ px4Systems s.dedup.log = [1] ∧
      resolveOutSystemID s.bridge = 42 ∧ isOwnFrame s.bridge 1 = false := by
  have hrun : latchMachine.run (.start 1)
      (.initBridge :: handleFrame (gimbalHeartbeat 42 0) ++ handleFrame (px4Heartbeat 0)) =
      some _ := rfl
  exact ⟨_, hrun, by decide, by decide, by decide, by decide⟩

/-- A gimbal that shares the autopilot's system id does no harm. -/
theorem latched_px4_shared_id :
    ∃ s b, latchMachine.run (.start 1)
        (.initBridge :: handleFrame (gimbalHeartbeat 1 0) ++ handleFrame (px4Heartbeat 0)) =
        some s ∧ s.bridge = some b ∧ b.connected = true ∧
      b.pixhawkSysID ∈ px4Systems s.dedup.log := by
  have hrun : latchMachine.run (.start 1)
      (.initBridge :: handleFrame (gimbalHeartbeat 1 0) ++ handleFrame (px4Heartbeat 0)) =
      some _ := rfl
  have h₀ : (LatchRun.start 1).Init :=
    ⟨⟨LinkRun.init_start Nat.one_pos, rfl, rfl, fun _ ↦ rfl, rfl, rfl⟩, rfl⟩
  exact ⟨_, ⟨1, true⟩, hrun, by decide, rfl, (latched_px4_iff h₀ hrun (by decide) rfl).mpr
    ⟨gimbalHeartbeat 1 0, by decide, by decide⟩⟩

end DroneBridge
