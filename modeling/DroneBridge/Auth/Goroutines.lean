import DroneBridge.Auth.Protocol
import DroneBridge.Auth.Session

/-!
# Keepalive, recovery and re-authentication

The keepalive loop refreshes the session. When that fails, `handleRefreshFailure` reconnects,
verifies the session or authenticates again, all in the same goroutine. Meanwhile `ForceReconnect`
closes the connection and starts a goroutine that recovers the session: by a refresh, else by a
session request on the connection it has read before, else by a full authentication.

A goroutine is where it is in the source; its position carries what its local variables hold. One
step is one critical section, one dial, one write or one reply. Only `sendRefresh` and `closeTCP`
take `tcpMu`. What the network answers comes with the step. A reply to a refresh comes with the
token whose refresh the server has answered: one sent over the same connection, though not always
the last one.
-/

namespace DroneBridge

/-! ## Error codes -/

def errRateLimited : UInt8 := 0x03
def errInternalError : UInt8 := 0x05
def errSessionExpired : UInt8 := 0x06
def errInvalidToken : UInt8 := 0x07

/-- The errors of `sendRefresh`. A code of zero is an error of the network. -/
inductive RefreshError
  | skipped
  | code (errorCode : UInt8)
  deriving DecidableEq, Repr

def RefreshError.network : RefreshError := .code 0

/-- The session is unknown to the server. -/
def RefreshError.needReauth : RefreshError → Bool
  | .skipped => false
  | .code errorCode => errorCode = errInvalidToken || errorCode = errSessionExpired

/-- The server could not answer just now. -/
def RefreshError.isTransient : RefreshError → Bool
  | .skipped => false
  | .code errorCode => errorCode = errInternalError || errorCode = errRateLimited

def RefreshError.cause (err : RefreshError) : DisconnectCause :=
  if err.needReauth then .sessionInvalid
  else if err.isTransient then .serverTransient
  else .network

/-! ## Where a goroutine is -/

/-- The goroutine `handleRefreshFailure` runs in. -/
inductive Home
  | keepalive
  | recovery
  deriving DecidableEq, Repr

inductive RefreshSite
  | keepaliveLoop
  /-- `handleRefreshFailure`, after it has reconnected. -/
  | verify (home : Home)
  /-- `TriggerSessionRecovery`, with the connection it has read. -/
  | recovery (conn : Option ℕ)
  deriving DecidableEq, Repr

inductive AuthSite
  | start
  | handle (home : Home)
  /-- `TriggerReauth`, called by `TriggerSessionRecovery`. -/
  | reauth
  deriving DecidableEq, Repr

/-- The position of a goroutine, named by what it does next. -/
inductive Pc
  | tick
  | ended
  -- `Start` and `Stop`
  | startRunning
  | startSession
  /-- `Start` sets `running` and starts the loop. -/
  | startLoop
  | stopClose
  -- `sendRefresh`
  | refreshLock (site : RefreshSite)
  | refreshRead (site : RefreshSite)
  | refreshClose (site : RefreshSite) (token : List UInt8)
  | refreshDial (site : RefreshSite) (token : List UInt8)
  | refreshReread (site : RefreshSite) (token : List UInt8)
  | refreshSend (site : RefreshSite) (token : List UInt8) (conn : ℕ)
  | refreshWait (site : RefreshSite) (token : List UInt8) (conn : ℕ)
  | refreshStore (site : RefreshSite) (token : List UInt8) (expiresAt : UInt64)
  | refreshMark (site : RefreshSite)
  | refreshMarked (site : RefreshSite)
  -- `authenticate`
  | auth (site : AuthSite)
  | authReset (site : AuthSite)
  | authDial (site : AuthSite)
  | authSend (site : AuthSite) (conn : ℕ)
  | authChallenge (site : AuthSite) (conn : ℕ)
  | authWait (site : AuthSite) (conn : ℕ)
  | authFailed (site : AuthSite)
  | authStore (site : AuthSite) (ack : AuthAck)
  | authMark (site : AuthSite)
  | authMarked (site : AuthSite)
  | authLog (site : AuthSite)
  -- `requestSession`
  | requestRead (conn : ℕ)
  | requestSend (conn : ℕ) (oldToken : List UInt8)
  | requestWait (conn : ℕ)
  | requestStore (ack : SessionAck)
  | requestMark
  | requestMarked
  | requestLog
  -- `handleRefreshFailure`
  | handle (home : Home) (err : RefreshError)
  | handleBackoff (home : Home) (needReauth : Bool)
  | handleClose (home : Home)
  | handleToken (home : Home)
  | handleReconnect (home : Home)
  | handleDial (home : Home)
  | handleMark (home : Home)
  | backoff (home : Home)
  | backoffStore (home : Home)
  -- `ForceReconnect`, `TriggerSessionRecovery` and `TriggerReauth`
  | recoverRunning
  | recover
  | reauthClose
  deriving DecidableEq, Repr

/-- The end of `handleRefreshFailure`. -/
def Home.done : Home → Pc
  | .keepalive => .tick
  | .recovery => .ended

/-- What the caller of `sendRefresh` does with its result; `none` is success. -/
def RefreshSite.next : RefreshSite → Option RefreshError → Pc
  | .keepaliveLoop, none => .tick
  | .keepaliveLoop, some err => .handle .keepalive err
  | .verify home, none => home.done
  | .verify home, some err => if err.needReauth then .auth (.handle home) else .backoff home
  | .recovery _, none => .ended
  | .recovery (some c), some _ => .requestRead c
  | .recovery none, some _ => .reauthClose

/-- What the caller of `authenticate` does with its result. -/
def AuthSite.next : AuthSite → Bool → Pc
  | .start, true => .startLoop
  | .start, false => .ended
  | .handle home, true => home.done
  | .handle home, false => .handleMark home
  | .reauth, true => .ended
  | .reauth, false => .handle .recovery .network

/-- What `TriggerSessionRecovery` does with the result of `requestSession`. -/
def requestNext : Bool → Pc
  | true => .ended
  | false => .reauthClose

/-! ## The client -/

structure AuthRun where
  status : StatusRun
  running : Bool
  /-- `stopCh` is closed. -/
  stopped : Bool
  conn : Option ℕ
  /-- For each connection ever dialled, whether it is closed. -/
  conns : List Bool
  /-- Empty before the first connection. -/
  previousLocalIP : List UInt8
  /-- Zero for never. -/
  lastIPChangeTime : ℕ
  /-- The goroutine that holds `tcpMu`. -/
  tcpMu : Option ℕ
  goroutines : List Pc
  /-- Ghost: the refresh requests sent so far, by connection and token. -/
  asked : List (ℕ × List UInt8)
  /-- Ghost: the tokens for which the server has granted an expiry, with the expiry. -/
  granted : List (List UInt8 × UInt64)

/-- What the environment answers to a step. -/
inductive Answer
  | ok
  | fail
  | now (time : ℕ)
  | stop
  /-- A connection, with its local address and the time it is stored. -/
  | dialled (localIP : List UInt8) (time : ℕ)
  | challenge
  | authAck (ack : AuthAck)
  | sessionAck (ack : SessionAck)
  | refreshAck (ack : SessionRefreshAck) (answered : List UInt8)
  deriving DecidableEq, Repr

/-- For this long after a change of the local address no refresh is sent. -/
def ipChangeThreshold : ℤ := 10 * Clock.second

/-- What is fixed while the client runs. -/
structure AuthConf where
  /-- The setting `authForceFreshConn`. -/
  forceFresh : Bool
  reconnectInterval : ℤ

namespace AuthRun

def new (now : ℕ) : AuthRun where
  status := .start now
  running := false
  stopped := false
  conn := none
  conns := []
  previousLocalIP := []
  lastIPChangeTime := 0
  tcpMu := none
  goroutines := []
  asked := []
  granted := []

variable (s : AuthRun)

def token : List UInt8 := s.status.state.sessionToken

def expiresAt : Option UInt64 := s.status.state.expiresAt

def setPc (i : ℕ) (pc : Pc) : AuthRun := { s with goroutines := s.goroutines.set i pc }

def spawn (pc : Pc) : AuthRun := { s with goroutines := s.goroutines ++ [pc] }

/-- A critical section of the session. -/
def withStatus (e : StatusEvent) : Option AuthRun :=
  (statusMachine.step s.status e).map fun status ↦ { s with status := status }

def closed (c : ℕ) : Bool := s.conns.getD c true

def closeConn : AuthRun :=
  match s.conn with
  | none => s
  | some c => { s with conns := s.conns.set c true }

def resetConn : AuthRun := { s.closeConn with conn := none }

def dial (localIP : List UInt8) : AuthRun :=
  { s with
    conn := some s.conns.length
    conns := s.conns ++ [false]
    previousLocalIP := localIP }

/-- The new connection of `reconnectTCP`, which also notes a change of the local address. -/
def redial (localIP : List UInt8) (time : ℕ) : AuthRun :=
  { s.dial localIP with
    lastIPChangeTime :=
      if s.previousLocalIP ≠ [] ∧ s.previousLocalIP ≠ localIP then time else s.lastIPChangeTime }

def tokenValid (now : ℕ) : Bool := s.token ≠ [] && Clock.before now s.status.state.expiry

def refreshReturn (i : ℕ) (site : RefreshSite) (err : Option RefreshError) : AuthRun :=
  { s with tcpMu := none }.setPc i (site.next err)

/-! ## Steps -/

variable (cfg : AuthConf) (i : ℕ)

def refreshStep : Pc → Answer → Option AuthRun
  | .refreshLock site, .ok =>
    if s.tcpMu = none then some ({ s with tcpMu := some i }.setPc i (.refreshRead site)) else none
  | .refreshRead site, .now time =>
    if Clock.sub time s.lastIPChangeTime < ipChangeThreshold then
      some (s.refreshReturn i site (some .skipped))
    else if s.token = [] then some (s.refreshReturn i site (some (.code errInvalidToken)))
    else
      match s.conn with
      | none => some (s.setPc i (.refreshClose site s.token))
      | some c => some (s.setPc i (.refreshSend site s.token c))
  | .refreshClose site token, .ok => some (s.closeConn.setPc i (.refreshDial site token))
  | .refreshDial site token, .dialled localIP time =>
    some ((s.redial localIP time).setPc i (.refreshReread site token))
  | .refreshDial site _, .fail => some (s.refreshReturn i site (some .network))
  | .refreshReread site token, .ok =>
    match s.conn with
    | some c => some (s.setPc i (.refreshSend site token c))
    -- The source would use a nil connection here, and the process would end.
    | none => none
  | .refreshSend site token c, .ok =>
    if s.closed c then none
    else some ({ s with asked := (c, token) :: s.asked }.setPc i (.refreshWait site token c))
  | .refreshSend site _ _, .fail => some (s.refreshReturn i site (some .network))
  | .refreshWait site token c, .refreshAck ack answered =>
    if s.closed c ∨ (c, answered) ∉ s.asked then none
    else if ack.result ≠ resultSuccess then
      some (s.refreshReturn i site (some (.code ack.errorCode)))
    else
      some ({ s with granted := (answered, ack.expiresAt) :: s.granted }.setPc i
        (.refreshStore site token ack.expiresAt))
  | .refreshWait site _ _, .fail => some (s.refreshReturn i site (some .network))
  | .refreshStore site _ expiresAt, .ok =>
    (s.withStatus (.storeExpiry expiresAt)).map (·.setPc i (.refreshMark site))
  | .refreshMark site, .now time =>
    (s.withStatus (.callMarkConnected i time)).map (·.setPc i (.refreshMarked site))
  | .refreshMarked site, .ok =>
    (s.withStatus (.markConnected i)).map (·.refreshReturn i site none)
  | _, _ => none

def authStep : Pc → Answer → Option AuthRun
  -- The secret key cannot be loaded.
  | .auth site, .fail => some (s.setPc i (site.next false))
  | .auth site, .ok =>
    match s.conn with
    | none => some (s.setPc i (.authDial site))
    | some c => some (s.setPc i (if cfg.forceFresh then .authReset site else .authSend site c))
  | .authReset site, .ok => some (s.resetConn.setPc i (.authDial site))
  | .authDial site, .dialled localIP _ =>
    some ((s.dial localIP).setPc i (.authSend site s.conns.length))
  | .authDial site, .fail => some (s.setPc i (site.next false))
  | .authSend site c, .ok => if s.closed c then none else some (s.setPc i (.authChallenge site c))
  | .authSend site _, .fail => some (s.setPc i (.authFailed site))
  -- The challenge is read and answered.
  | .authChallenge site c, .challenge =>
    if s.closed c then none else some (s.setPc i (.authWait site c))
  | .authChallenge site _, .fail => some (s.setPc i (.authFailed site))
  | .authWait site c, .authAck ack =>
    if s.closed c then none
    else if ack.result ≠ resultSuccess then some (s.setPc i (.authFailed site))
    else if ack.sessionToken = [] then some (s.setPc i (site.next false))
    else
      some ({ s with granted := (ack.sessionToken, ack.expiresAt) :: s.granted }.setPc i
        (.authStore site ack))
  | .authWait site _, .fail => some (s.setPc i (.authFailed site))
  | .authFailed site, .ok => some (s.resetConn.setPc i (site.next false))
  | .authStore site ack, .ok =>
    (s.withStatus (.storeSession ack.sessionToken ack.expiresAt ack.interval)).map
      (·.setPc i (.authMark site))
  | .authMark site, .now time =>
    (s.withStatus (.callMarkConnected i time)).map (·.setPc i (.authMarked site))
  | .authMarked site, .ok => (s.withStatus (.markConnected i)).map (·.setPc i (.authLog site))
  -- A shorter token is sliced out of range, and the process ends.
  | .authLog site, .ok => if s.token.length < 20 then none else some (s.setPc i (site.next true))
  | _, _ => none

def requestStep : Pc → Answer → Option AuthRun
  | .requestRead c, .ok => some (s.setPc i (.requestSend c s.token))
  | .requestSend c _, .ok => if s.closed c then none else some (s.setPc i (.requestWait c))
  | .requestSend _ _, .fail => some (s.setPc i (requestNext false))
  | .requestWait c, .sessionAck ack =>
    if s.closed c then none
    else if ack.result ≠ resultSuccess then some (s.setPc i (requestNext false))
    else
      some ({ s with granted := (ack.token, ack.expiresAt) :: s.granted }.setPc i
        (.requestStore ack))
  | .requestWait _, .fail => some (s.setPc i (requestNext false))
  | .requestStore ack, .ok =>
    (s.withStatus (.storeSession ack.token ack.expiresAt ack.interval)).map
      (·.setPc i .requestMark)
  | .requestMark, .now time =>
    (s.withStatus (.callMarkConnected i time)).map (·.setPc i .requestMarked)
  | .requestMarked, .ok => (s.withStatus (.markConnected i)).map (·.setPc i .requestLog)
  | .requestLog, .ok =>
    if s.token.length < 20 then none else some (s.setPc i (requestNext true))
  | _, _ => none

def handleStep : Pc → Answer → Option AuthRun
  | .handle home err, .ok =>
    if err = .skipped then some (s.setPc i home.done)
    else
      (s.withStatus (.markDisconnected err.cause)).map
        (·.setPc i (if err.isTransient then home.done else .handleBackoff home err.needReauth))
  | .handleBackoff home needReauth, .now time =>
    some (s.setPc i
      (if s.status.state.reconnectBackoffActive time then home.done
        else if needReauth then .auth (.handle home)
        else .handleClose home))
  | .handleClose home, .ok => some (s.resetConn.setPc i (.handleToken home))
  | .handleToken home, .now time =>
    some (s.setPc i (if s.tokenValid time then .handleReconnect home else .auth (.handle home)))
  | .handleReconnect home, .ok => some (s.closeConn.setPc i (.handleDial home))
  | .handleDial home, .dialled localIP time =>
    some ((s.redial localIP time).setPc i (.refreshLock (.verify home)))
  | .handleDial home, .fail => some (s.setPc i (.auth (.handle home)))
  | .handleMark home, .ok =>
    (s.withStatus (.markDisconnected .authFailed)).map (·.setPc i (.backoff home))
  | .backoff home, .ok =>
    some (s.setPc i (if s.status.state.everConnected then .backoffStore home else home.done))
  | .backoffStore home, .now time =>
    (s.withStatus (.scheduleReconnect time cfg.reconnectInterval)).map (·.setPc i home.done)
  | _, _ => none

/-- A step of the keepalive loop, of `Start` and `Stop`, of the recovery or of `TriggerReauth`. -/
def loopStep : Pc → Answer → Option AuthRun
  | .tick, .ok => some (if s.running then s.setPc i (.refreshLock .keepaliveLoop) else s)
  | .tick, .stop => if s.stopped then some (s.setPc i .ended) else none
  | .startRunning, .ok => some (s.setPc i (if s.running then .ended else .startSession))
  | .startSession, .now time =>
    some (s.setPc i (if s.tokenValid time then .startLoop else .auth .start))
  | .stopClose, .ok => some (s.closeConn.setPc i .ended)
  | .startLoop, .ok => some ({ s with running := true }.setPc i .tick)
  | .recoverRunning, .ok => some (s.setPc i (if s.running then .recover else .ended))
  | .recover, .now time =>
    some (s.setPc i
      (if !s.running then .handle .recovery .network
        else if s.tokenValid time then .refreshLock (.recovery s.conn)
        else
          match s.conn with
          | some c => .requestRead c
          | none => .reauthClose))
  | .reauthClose, .ok =>
    if s.tcpMu = none then some (s.resetConn.setPc i (.auth .reauth)) else none
  | _, _ => none

def goroutineStep (pc : Pc) (answer : Answer) : Option AuthRun :=
  (s.refreshStep i pc answer).or ((s.authStep cfg i pc answer).or ((s.requestStep i pc answer).or
    ((s.handleStep cfg i pc answer).or (s.loopStep i pc answer))))

end AuthRun

inductive AuthEvent
  | start
  | forceReconnect
  | stop
  | goroutine (i : ℕ) (answer : Answer)
  deriving DecidableEq, Repr

/-- The client with all its goroutines. -/
def authMachine (cfg : AuthConf) : Machine AuthRun AuthEvent where
  step s
    | .start => some (s.spawn .startRunning)
    | .forceReconnect =>
      if s.tcpMu = none then
        match s.conn with
        | none => some s
        | some _ => some (s.resetConn.spawn .recoverRunning)
      else none
    -- A second `Stop` closes a closed channel, and the process ends.
    | .stop =>
      if s.stopped then none
      else some ({ s with running := false, stopped := true }.spawn .stopClose)
    | .goroutine i answer => (s.goroutines[i]?).bind (s.goroutineStep cfg i · answer)

end DroneBridge
