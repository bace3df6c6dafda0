import DroneBridge.Auth.Delivery
import DroneBridge.Lib.ReplyChannel
import DroneBridge.Lib.Machine

/-!
# The operations on the authentication connection

The client of `auth/client.go` and `auth/client_apikey.go` keeps one TCP connection, `conn`, and
several goroutines use it at a time: the keepalive loop refreshes the session, the web interface
asks for API keys, the VPN manager asks for its provisioning, and a failed refresh or a change of
the network asks for a new session or authenticates anew.

An operation sends a request and takes the reply from a single `Read`. What differs is how it gets
at the connection.

* A refresh and the API key operations take the mutex `tcpMu`, then read `conn`, redial when there
  is none, and hold the mutex until they have read.
* The VPN provisioning reads `conn` first and takes the mutex later.
* A session request is handed the connection its caller read some time before, and takes no mutex.
* The authentication dials a connection of its own, unless it is configured to go on with the one
  there is, makes two exchanges and takes no mutex.

A read that times out is an error to the caller; only the authentication then closes the
connection. So the reply can still come, and will be read by whoever reads next.

The model keeps every connection there ever was, since an operation may hold one that `conn` no
longer names. Each request gets a number when it is sent; each byte of a reply carries the number of
the request the server answers with it.
-/

namespace DroneBridge

/-! ## Operations -/

inductive OpKind
  | sendRefresh
  | requestAPIKey
  | revokeAPIKey
  | getAPIKeyStatus
  | deleteAPIKey
  | requestVPNProvisioning
  | requestSession
  | authenticate
  deriving DecidableEq, Repr

/-- The replies the operation waits for, one exchange after the other. -/
def OpKind.exchanges : OpKind → List ReplyKind
  | .sendRefresh => [.sessionRefreshAck]
  | .requestAPIKey => [.apiKeyResponse]
  | .revokeAPIKey => [.apiKeyRevokeAck]
  | .getAPIKeyStatus => [.apiKeyStatusResp]
  | .deleteAPIKey => [.apiKeyDeleteAck]
  | .requestVPNProvisioning => [.vpnProvisionAck]
  | .requestSession => [.sessionAck]
  | .authenticate => [.authChallenge, .authAck]

inductive OpPc
  | called
  /-- Has a connection; the mutex, where it is taken, comes next. -/
  | captured (c : ℕ)
  /-- Holds the mutex; the connection comes next. -/
  | holding
  /-- Holds the mutex and has redialed; `conn` is read again. -/
  | redialed
  /-- The authentication has no connection yet. -/
  | dialing
  /-- About to send on the connection, with these exchanges to make. -/
  | ready (c : ℕ) (todo : List ReplyKind)
  /-- Has sent a request and waits for the reply. -/
  | waiting (c : ℕ) (request : ℕ) (expected : ReplyKind) (todo : List ReplyKind)
  | returned
  deriving DecidableEq, Repr

structure Operation where
  kind : OpKind
  pc : OpPc
  deriving DecidableEq, Repr

/-! ## The client -/

structure TCPConn where
  channel : ReplyChannel UInt8
  closed : Bool
  deriving DecidableEq, Repr

/-- Ghost: an operation took these bytes for the reply to its request. -/
structure Acceptance where
  operation : ℕ
  request : ℕ
  chunk : List (ℕ × UInt8)
  message : ServerMessage
  deriving DecidableEq, Repr

structure Client where
  conn : Option ℕ
  tcpMu : Option ℕ
  conns : List TCPConn
  operations : List Operation
  /-- Ghost: how many requests were sent. -/
  sent : ℕ
  /-- Ghost: the reply that each request asks for. -/
  asked : List (ℕ × ReplyKind)
  /-- Ghost: the replies taken so far. -/
  accepted : List Acceptance
  deriving DecidableEq, Repr

namespace Client

def new : Client := ⟨none, none, [], [], 0, [], []⟩

def setPc (s : Client) (i : ℕ) (pc : OpPc) : Client :=
  { s with operations := s.operations.modify i fun op ↦ { op with pc := pc } }

def lock (s : Client) (i : ℕ) : Option Client :=
  if s.tcpMu = none then some { s with tcpMu := some i } else none

def unlock (s : Client) (i : ℕ) : Client :=
  if s.tcpMu = some i then { s with tcpMu := none } else s

/-- Close the connection in use, if there is one, and keep it in `conn`. -/
def closeConn (s : Client) : Client :=
  match s.conn with
  | none => s
  | some c => { s with conns := s.conns.modify c fun conn ↦ { conn with closed := true } }

/-- `closeTCP`, `resetConn` and the network error of `handleRefreshFailure`. -/
def closeTCP (s : Client) : Client := { s.closeConn with conn := none }

def dial (s : Client) : Client :=
  { s with conns := s.conns ++ [⟨.new, false⟩], conn := some s.conns.length }

def reconnectTCP (s : Client) : Client := s.closeConn.dial

def finish (s : Client) (i : ℕ) : Client := (s.unlock i).setPc i .returned

/-- Return with an error. The authentication closes the connection in use, which need not be the one
it had; the others leave it open. -/
def abort (s : Client) (i : ℕ) (kind : OpKind) : Client :=
  if kind = .authenticate then s.closeTCP.finish i else s.finish i

/-! ## Steps -/

/-- The first step of an operation. -/
def enter (forceFresh : Bool) (s : Client) (i : ℕ) : OpKind → Option Client
  | .requestVPNProvisioning | .requestSession =>
    match s.conn with
    | none => some (s.finish i)
    | some c => some (s.setPc i (.captured c))
  | .authenticate =>
    match s.conn with
    | none => some (s.setPc i .dialing)
    | some c =>
      if forceFresh then some (s.closeTCP.setPc i .dialing)
      else some (s.setPc i (.ready c OpKind.authenticate.exchanges))
  | _ => (s.lock i).map (·.setPc i .holding)

/-- A step that neither sends nor reads. -/
def advance (forceFresh : Bool) (s : Client) (i : ℕ) : Option Client := do
  let op ← s.operations[i]?
  match op.pc with
  | .called => s.enter forceFresh i op.kind
  | .captured c =>
    if op.kind = .requestVPNProvisioning then
      (s.lock i).map (·.setPc i (.ready c op.kind.exchanges))
    else some (s.setPc i (.ready c op.kind.exchanges))
  | .holding =>
    match s.conn with
    | some c => some (s.setPc i (.ready c op.kind.exchanges))
    | none => some (s.reconnectTCP.setPc i .redialed)
  | .redialed =>
    match s.conn with
    | some c => some (s.setPc i (.ready c op.kind.exchanges))
    -- The source would use a nil connection here, and the process would end.
    | none => none
  | .dialing => some (s.dial.setPc i (.ready s.conns.length op.kind.exchanges))
  | .ready _ _ | .waiting _ _ _ _ | .returned => none

/-- `conn.Write` of the next request. -/
def send (s : Client) (i : ℕ) : Option Client := do
  let op ← s.operations[i]?
  match op.pc with
  | .ready c (expected :: todo) =>
    let conn ← s.conns[c]?
    if conn.closed then none
    else
      some
        { s with
          conns := s.conns.set c { conn with channel := conn.channel.ask s.sent }
          operations := s.operations.set i { op with pc := .waiting c s.sent expected todo }
          sent := s.sent + 1
          asked := (s.sent, expected) :: s.asked }
  | _ => none

/-- An `AUTH_ACK` that rejects; the authentication closes the connection then. -/
def rejects : ServerMessage → Bool
  | .authAck m => m.result != resultSuccess
  | _ => false

/-- The reply has been parsed: it is taken for the reply to the request. -/
def accept (s : Client) (i : ℕ) (kind : OpKind) (c request : ℕ) (chunk : List (ℕ × UInt8))
    (todo : List ReplyKind) (message : ServerMessage) : Client :=
  let s' : Client := { s with accepted := s.accepted ++ [⟨i, request, chunk, message⟩] }
  match todo with
  | [] => if rejects message then s'.abort i kind else s'.finish i
  | _ :: _ => s'.setPc i (.ready c todo)

/-- `conn.Read` of `n` bytes, and the parser on them. -/
def read (s : Client) (i n : ℕ) : Option Client := do
  let op ← s.operations[i]?
  match op.pc with
  | .waiting c request expected todo =>
    let conn ← s.conns[c]?
    if conn.closed ∨ readBufferSize < n then none
    else
      let (chunk, channel) ← conn.channel.read n
      let s' := { s with conns := s.conns.set c { conn with channel := channel } }
      match expected.decode (chunk.map Prod.snd) with
      | none => some (s'.abort i op.kind)
      | some message => some (s'.accept i op.kind c request chunk todo message)
  | _ => none

/-- Return with an error: no session, a failed dial, a failed write, a read that times out. -/
def fail (s : Client) (i : ℕ) : Option Client := do
  let op ← s.operations[i]?
  match op.pc with
  | .called | .returned => none
  | .captured _ | .holding | .redialed | .dialing => some (s.finish i)
  | .ready _ _ | .waiting _ _ _ _ => some (s.abort i op.kind)

/-- The server answers the oldest request on a connection. -/
def answer (s : Client) (c : ℕ) (bytes : List UInt8) : Option Client := do
  let conn ← s.conns[c]?
  let channel ← conn.channel.answer bytes
  return { s with conns := s.conns.set c { conn with channel := channel } }

end Client

inductive ClientEvent
  | call (kind : OpKind)
  | advance (i : ℕ)
  | send (i : ℕ)
  | read (i n : ℕ)
  | fail (i : ℕ)
  | answer (c : ℕ) (bytes : List UInt8)
  /-- The connection in use is closed and forgotten, after a failed refresh, which does not take the
  mutex for it, or from outside, which does. -/
  | closeTCP
  | reconnectTCP
  /-- `Stop`, or a reconnect whose dial failed. -/
  | closeConn
  deriving DecidableEq, Repr

/-- The client with its server. `forceFresh` is the setting `authForceFreshConn`. -/
def clientMachine (forceFresh : Bool) : Machine Client ClientEvent where
  step s
    | .call kind => some { s with operations := s.operations ++ [⟨kind, .called⟩] }
    | .advance i => s.advance forceFresh i
    | .send i => s.send i
    | .read i n => s.read i n
    | .fail i => s.fail i
    | .answer c bytes => s.answer c bytes
    | .closeTCP => some s.closeTCP
    | .reconnectTCP => some s.reconnectTCP
    | .closeConn => some s.closeConn

end DroneBridge
