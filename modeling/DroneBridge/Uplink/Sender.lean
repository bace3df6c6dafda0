import DroneBridge.Lib.Machine
import DroneBridge.Vpn.Manager

/-!
# The uplink sender

The forwarder reaches the server through one MAVLink node, `senderNode`. The node is built with a
fixed endpoint and replaced over time: `NewWithVPN` builds the first one, `RebindUplink` and the
`rebuildSender` of the IP monitor replace it. Three parties write through it: the forwarding loop,
the session keepalive and `PublishGenerated`. They read the pointer under `senderMu` and write after
releasing it.

The model keeps every step that can be interleaved apart: each call of the VPN manager, each access
to the pointer, each call of the node. A run is with VPN enabled in the configuration. Which
answers the tunnel, the resolver and the library give is part of the label of a step.

A node is a cell of a heap. Closing a node closes its `terminate` channel, so closing it twice
panics; a write to a closed node returns without an error and reaches nobody.
-/

namespace DroneBridge

/-! ## Frames -/

structure MessageMavlinkKeepAlive where
  token : List UInt8
  expiresAt : UInt32
  sequence : UInt16
  pixhawkConnected : UInt8
  deriving DecidableEq, Repr

inductive UplinkFrame
  /-- A frame of the flight controller, forwarded as it came. -/
  | px4 (raw : List UInt8)
  | keepAlive (msg : MessageMavlinkKeepAlive)
  /-- A message made on the companion computer. -/
  | generated (raw : List UInt8)
  deriving DecidableEq, Repr

def hexDigit (c : Char) : Option UInt8 :=
  if '0' ≤ c ∧ c ≤ '9' then some (c.toNat - 48).toUInt8
  else if 'a' ≤ c ∧ c ≤ 'f' then some (c.toNat - 87).toUInt8
  else if 'A' ≤ c ∧ c ≤ 'F' then some (c.toNat - 55).toUInt8
  else none

/-- The source's `hex.DecodeString`; `none` is its error. -/
def hexDecode : List Char → Option (List UInt8)
  | [] => some []
  | [_] => none
  | hi :: lo :: cs =>
    match hexDigit hi, hexDigit lo, hexDecode cs with
    | some h, some l, some bytes => some ((h * 16 + l) :: bytes)
    | _, _, _ => none

/-- In shifted mode the token moves up by one byte and its last byte travels in the connection flag.
-/
def sessionKeepAlive (shifted : Bool) (token : List UInt8) (expiresAt : UInt32)
    (sequence : UInt16) (connected : Bool) : MessageMavlinkKeepAlive :=
  if shifted then
    { token := 0 :: token.take 31, expiresAt, sequence, pixhawkConnected := token.getD 31 0 }
  else { token, expiresAt, sequence, pixhawkConnected := if connected then 1 else 0 }

/-! ## Nodes -/

/-- Where the endpoint of a node came from. -/
inductive SenderEndpoint
  /-- A plain UDP client, from `createSenderEndpoint`. -/
  | udpClient (address : String)
  /-- A connection dialled by the VPN manager. -/
  | vpnConn (address : String)
  deriving DecidableEq, Repr

def SenderEndpoint.isVpn : SenderEndpoint → Bool
  | .udpClient _ => false
  | .vpnConn _ => true

structure SenderNode where
  endpoint : SenderEndpoint
  /-- How often the node was closed. -/
  closes : ℕ
  deriving DecidableEq, Repr

/-! ## Program counters -/

/-- Where `NewWithVPN` is, named by the call it makes next. -/
inductive BootPc
  | isRunning
  | getAssignedIP
  | close
  | dialUDP
  | newNode
  | store (node : ℕ)
  | done
  deriving DecidableEq, Repr

/-- A call of `RebindUplink` or `rebuildSender`, named by the call it makes next. The `conf` steps
are those of `getEndpointConf`. -/
inductive BuildPc
  | idle
  | rebindIsRunning
  | rebindGetAssignedIP
  | readOld
  | closeOld (node : ℕ)
  | confIsRunning
  | confGetAssignedIP
  | confDialUDP
  | newNode (endpoint : SenderEndpoint)
  | store (node : ℕ)
  | signal
  deriving DecidableEq, Repr

/-- A frame that has passed the first check of the VPN gate. `deliver` is whether the health and GPS
checks, made after the gate, let it through. -/
inductive ForwardPc
  | idle
  | getAssignedIP (raw : List UInt8) (deliver : Bool)
  | read (raw : List UInt8)
  | write (raw : List UInt8) (node : ℕ)
  deriving DecidableEq, Repr

/-- A goroutine between reading the sender pointer and writing to the node. -/
inductive WritePc (φ : Type)
  | idle
  | write (frame : φ) (node : ℕ)
  deriving DecidableEq, Repr

/-! ## The state -/

/-- What is fixed while the program runs. -/
structure UplinkConf where
  /-- The address of the server. -/
  address : String
  /-- The keepalive runs in shifted mode. -/
  shifted : Bool
  deriving DecidableEq, Repr

structure Uplink where
  vpn : Manager
  /-- Every node built so far, indexed by its address. -/
  nodes : List SenderNode
  /-- The address `senderNode` holds. -/
  sender : ℕ
  boot : BootPc
  builders : ℕ → BuildPc
  forward : ForwardPc
  keepalive : WritePc MessageMavlinkKeepAlive
  /-- The sequence number of the next keepalive. -/
  sequence : UInt16
  publishers : ℕ → WritePc (List UInt8)
  /-- A signal waits in the one-slot `senderRebuildCh`. -/
  rebuildCh : Bool
  /-- A node was closed twice, and the program has panicked. -/
  crashed : Bool
  /-- Ghost: what nodes have written, each with the endpoint it went to. -/
  sent : List (UplinkFrame × SenderEndpoint)

namespace Uplink

/-- What `New` leaves: a plain sender, and `NewWithVPN` about to ask for the tunnel. -/
def new (cfg : UplinkConf) (vpn : Manager) : Uplink where
  vpn := vpn
  nodes := [⟨.udpClient cfg.address, 0⟩]
  sender := 0
  boot := .isRunning
  builders := fun _ ↦ .idle
  forward := .idle
  keepalive := .idle
  sequence := 0
  publishers := fun _ ↦ .idle
  rebuildCh := false
  crashed := false
  sent := []

variable (s : Uplink)

/-- Close a node; a second close panics. -/
def closeNode (n : ℕ) : Uplink :=
  match s.nodes[n]? with
  | none => s
  | some node =>
    { s with
      nodes := s.nodes.set n { node with closes := node.closes + 1 }
      crashed := s.crashed || 0 < node.closes }

/-- Write through a node: an open node sends the frame to its endpoint, a closed one drops it. -/
def writeNode (n : ℕ) (frame : UplinkFrame) : Uplink :=
  match s.nodes[n]? with
  | none => s
  | some node =>
    if node.closes = 0 then { s with sent := s.sent ++ [(frame, node.endpoint)] } else s

def setBuilder (i : ℕ) (pc : BuildPc) : Uplink :=
  { s with builders := fun j ↦ if j = i then pc else s.builders j }

def setPublisher (i : ℕ) (pc : WritePc (List UInt8)) : Uplink :=
  { s with publishers := fun j ↦ if j = i then pc else s.publishers j }

/-! ## The steps of each party -/

variable (cfg : UplinkConf)

/-- `ok` is what `DialUDP` or `NewNode` answers. When either fails the closed plain sender stays. -/
def bootStep (ok : Bool) : Option Uplink :=
  match s.boot with
  | .isRunning => some { s with boot := if s.vpn.isRunning then .getAssignedIP else .done }
  | .getAssignedIP => some { s with boot := if s.vpn.getAssignedIP = "" then .done else .close }
  | .close => some { s.closeNode s.sender with boot := .dialUDP }
  | .dialUDP => some { s with boot := if s.vpn.dialUDP ok then .newNode else .done }
  | .newNode =>
    if ok then
      some { s with
        nodes := s.nodes ++ [⟨.vpnConn cfg.address, 0⟩]
        boot := .store s.nodes.length }
    else some { s with boot := .done }
  | .store n => some { s with sender := n, boot := .done }
  | .done => none

/-- The next step of a builder; `ok` is what `DialUDP` or `NewNode` answers. -/
def buildStep (i : ℕ) (ok : Bool) : Option Uplink :=
  match s.builders i with
  | .idle => none
  | .rebindIsRunning =>
    some (s.setBuilder i (if s.vpn.isRunning then .rebindGetAssignedIP else .idle))
  | .rebindGetAssignedIP =>
    some (s.setBuilder i (if s.vpn.getAssignedIP = "" then .idle else .readOld))
  | .readOld => some (s.setBuilder i (.closeOld s.sender))
  | .closeOld n => some ((s.closeNode n).setBuilder i .confIsRunning)
  | .confIsRunning =>
    some (s.setBuilder i
      (if s.vpn.isRunning then .confGetAssignedIP else .newNode (.udpClient cfg.address)))
  | .confGetAssignedIP =>
    some (s.setBuilder i
      (if s.vpn.getAssignedIP = "" then .newNode (.udpClient cfg.address) else .confDialUDP))
  | .confDialUDP =>
    some (s.setBuilder i
      (.newNode (if s.vpn.dialUDP ok then .vpnConn cfg.address else .udpClient cfg.address)))
  | .newNode endpoint =>
    if ok then
      some { s.setBuilder i (.store s.nodes.length) with nodes := s.nodes ++ [⟨endpoint, 0⟩] }
    else some (s.setBuilder i .idle)
  | .store n => some { s.setBuilder i .signal with sender := n }
  | .signal => some { s.setBuilder i .idle with rebuildCh := true }

/-- The next step of the forwarding loop with the frame at hand. -/
def forwardStep : Option Uplink :=
  match s.forward with
  | .idle => none
  | .getAssignedIP raw deliver =>
    some { s with forward := if s.vpn.getAssignedIP ≠ "" ∧ deliver then .read raw else .idle }
  | .read raw => some { s with forward := .write raw s.sender }
  | .write raw n => some { s.writeNode n (.px4 raw) with forward := .idle }

/-- Without a session, or with a token that is not 32 bytes in hex, nothing happens. -/
def keepaliveTick (tokenHex : String) (expiresAt : UInt32) (connected : Bool) : Uplink :=
  match hexDecode tokenHex.toList with
  | none => s
  | some token =>
    if token.length = 32 then
      { s with
        keepalive := .write (sessionKeepAlive cfg.shifted token expiresAt s.sequence connected)
          s.sender
        sequence := s.sequence + 1 }
    else s

end Uplink

/-! ## Runs -/

/-- The steps of the parties that exist once `NewWithVPN` has returned. -/
inductive PartyEvent
  /-- A call of `RebindUplink`, or of `rebuildSender`, begins. -/
  | rebindUplink (i : ℕ)
  | rebuildSender (i : ℕ)
  /-- A builder takes its next step. -/
  | build (i : ℕ) (ok : Bool)
  /-- A frame of the flight controller comes to the VPN gate. -/
  | frame (raw : List UInt8) (deliver : Bool)
  | forward
  | tick (tokenHex : String) (expiresAt : UInt32) (connected : Bool)
  | keepalive
  /-- `PublishGenerated` is called and reads the pointer. -/
  | publish (i : ℕ) (raw : List UInt8)
  | publishWrite (i : ℕ)
  deriving DecidableEq, Repr

inductive UplinkEvent
  | vpn (e : VPNEvent)
  /-- `NewWithVPN` takes its next step. -/
  | boot (ok : Bool)
  | party (e : PartyEvent)
  deriving DecidableEq, Repr

namespace Uplink

def partyStep (cfg : UplinkConf) (s : Uplink) : PartyEvent → Option Uplink
  | .rebindUplink i =>
    if s.builders i = .idle then some (s.setBuilder i .rebindIsRunning) else none
  | .rebuildSender i => if s.builders i = .idle then some (s.setBuilder i .readOld) else none
  | .build i ok => s.buildStep cfg i ok
  | .frame raw deliver =>
    if s.forward = .idle then
      some { s with forward := if s.vpn.isRunning then .getAssignedIP raw deliver else .idle }
    else none
  | .forward => s.forwardStep
  | .tick tokenHex expiresAt connected =>
    if s.keepalive = .idle then some (s.keepaliveTick cfg tokenHex expiresAt connected) else none
  | .keepalive =>
    match s.keepalive with
    | .idle => none
    | .write msg n => some { s.writeNode n (.keepAlive msg) with keepalive := .idle }
  | .publish i raw =>
    if s.publishers i = .idle then some (s.setPublisher i (.write raw s.sender)) else none
  | .publishWrite i =>
    match s.publishers i with
    | .idle => none
    | .write raw n => some ((s.writeNode n (.generated raw)).setPublisher i .idle)

end Uplink

/-- Nobody but the tunnel moves before `NewWithVPN` has returned, and nothing moves after a panic.
-/
def uplinkMachine (cfg : UplinkConf) : Machine Uplink UplinkEvent where
  step s e :=
    if s.crashed then none
    else
      match e with
      | .vpn e => some { s with vpn := s.vpn.apply e }
      | .boot ok => s.bootStep cfg ok
      | .party e => if s.boot = .done then s.partyStep cfg e else none

end DroneBridge
