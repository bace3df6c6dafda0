import DroneBridge.Lib.Machine
import DroneBridge.Lib.Clock

/-!
# The session and the two marks

The client keeps its session (token, expiry, refresh interval) and what it knows about the server
behind one mutex. Three operations store a session or extend it and then mark the client connected;
every failure marks it disconnected. `IsAuthenticated` reads all of it under the read lock.

A mark takes the time before it takes the mutex, so marks may take effect in another order than
they were timed, and anything may happen in between. `statusMachine` runs the critical sections in
any order. The staleness test of `IsAuthenticated` is skipped as long as no refresh time is
recorded; a reachable server always has one, and that is the invariant.
-/

namespace DroneBridge

/-- Why the server session is unreachable. -/
inductive DisconnectCause
  | none
  | network
  | sessionInvalid
  | authFailed
  | serverTransient
  deriving DecidableEq, Repr

def DisconnectCause.text : DisconnectCause → String
  | none => ""
  | network => "network_error"
  | sessionInvalid => "session_invalid"
  | authFailed => "auth_failed"
  | serverTransient => "server_transient"

/-! ## What the mutex guards -/

structure SessionState where
  sessionToken : List UInt8
  /-- The second of the Unix epoch the server has named; `none` for the zero time. -/
  expiresAt : Option UInt64
  refreshInterval : ℤ
  serverReachable : Bool
  everConnected : Bool
  disconnectCause : DisconnectCause
  /-- No full reconnect before this instant; zero for no such limit. -/
  nextReconnectAt : ℕ
  /-- When the client was last marked connected; zero for never. -/
  lastRefreshOK : ℕ
  deriving DecidableEq, Repr

namespace SessionState

/-- The client as `NewClient` leaves it. -/
def new : SessionState where
  sessionToken := []
  expiresAt := none
  refreshInterval := 0
  serverReachable := false
  everConnected := false
  disconnectCause := .none
  nextReconnectAt := 0
  lastRefreshOK := 0

variable (s : SessionState)

/-- The critical section in which `authenticate` and `requestSession` store a session. -/
def storeSession (token : List UInt8) (expiresAt : UInt64) (interval : UInt16) : SessionState :=
  { s with
    sessionToken := token
    expiresAt := some expiresAt
    refreshInterval := interval.toNat * Clock.second }

/-- The critical section in which `sendRefresh` stores the new expiry, and only the expiry. -/
def storeExpiry (expiresAt : UInt64) : SessionState :=
  { s with expiresAt := some expiresAt }

/-- The end of `Register`: the session comes from the authentication. -/
def clearSession : SessionState := { s with sessionToken := [], expiresAt := none }

/-- The critical section of `markConnected`, with the time it has taken before. -/
def markConnected (now : ℕ) : SessionState :=
  { s with
    serverReachable := true
    everConnected := true
    disconnectCause := .none
    nextReconnectAt := 0
    lastRefreshOK := now }

def markDisconnected (cause : DisconnectCause) : SessionState :=
  { s with serverReachable := false, disconnectCause := cause }

/-- The second critical section of `scheduleReconnectBackoff`. -/
def scheduleReconnect (now : ℕ) (interval : ℤ) : SessionState :=
  { s with nextReconnectAt := Clock.add now interval }

def reconnectBackoffActive (now : ℕ) : Bool :=
  s.everConnected && !Clock.isZero s.nextReconnectAt && now < s.nextReconnectAt

/-- The expiry in seconds since the zero instant. -/
def expiry : ℤ := s.expiresAt.elim 0 Clock.unix

/-- After this long without a refresh the session is stale. -/
def staleAfter : ℤ :=
  if s.refreshInterval * 2 = 0 then 60 * Clock.second else s.refreshInterval * 2

/-- `IsAuthenticated`. It reads the clock twice: for the expiry, and for the age of the refresh. -/
def isAuthenticated (now since : ℕ) : Bool :=
  if !s.serverReachable then false
  else if s.sessionToken = [] ∨ !Clock.before now s.expiry then false
  else if !Clock.isZero s.lastRefreshOK && s.staleAfter < Clock.sub since s.lastRefreshOK then false
  else true

theorem isAuthenticated_iff {s : SessionState} {now since : ℕ} :
    s.isAuthenticated now since = true ↔
      s.serverReachable = true ∧ s.sessionToken ≠ [] ∧ (now : ℤ) < s.expiry * Clock.second ∧
        (0 < s.lastRefreshOK → (since : ℤ) - s.lastRefreshOK ≤ s.staleAfter) := by
  rw [isAuthenticated, ← Clock.before_iff, ← Clock.isZero_eq_false_iff, ← Clock.sub]
  cases s.serverReachable <;> by_cases htoken : s.sessionToken = [] <;>
    cases Clock.before now s.expiry <;> cases Clock.isZero s.lastRefreshOK <;> simp [htoken]

theorem staleAfter_eq (s : SessionState) :
    s.staleAfter = if s.refreshInterval = 0 then 60 * Clock.second else 2 * s.refreshInterval := by
  rw [staleAfter]
  split_ifs <;> omega

end SessionState

/-! ## Runs -/

/-- A mark that has taken effect. -/
inductive Mark
  | connected (time : ℕ)
  | disconnected (cause : DisconnectCause)
  deriving DecidableEq, Repr

structure StatusRun where
  state : SessionState
  /-- The latest time any mark has read. -/
  clock : ℕ
  /-- The calls of `markConnected` that have read the time and wait for the mutex. -/
  marking : ℕ → Option ℕ
  /-- Ghost: the latest mark that took effect. -/
  lastMark : Option Mark

inductive StatusEvent
  | callMarkConnected (i now : ℕ)
  | markConnected (i : ℕ)
  | markDisconnected (cause : DisconnectCause)
  | storeSession (token : List UInt8) (expiresAt : UInt64) (interval : UInt16)
  | storeExpiry (expiresAt : UInt64)
  | clearSession
  | scheduleReconnect (now : ℕ) (interval : ℤ)
  deriving DecidableEq, Repr

namespace StatusRun

variable (r : StatusRun)

def setState (state : SessionState) : StatusRun := { r with state := state }

def setMarking (i : ℕ) (time : Option ℕ) : StatusRun :=
  { r with marking := fun j ↦ if j = i then time else r.marking j }

end StatusRun

/-- The critical sections in any order. The clock of the marks never goes back. -/
def statusMachine : Machine StatusRun StatusEvent where
  step r
    | .callMarkConnected i now =>
      if r.clock ≤ now then some ({ r with clock := now }.setMarking i (some now)) else none
    | .markConnected i =>
      match r.marking i with
      | none => none
      | some now =>
        some { (r.setState (r.state.markConnected now)).setMarking i none with
          lastMark := some (.connected now) }
    | .markDisconnected cause =>
      some { r.setState (r.state.markDisconnected cause) with
        lastMark := some (.disconnected cause) }
    | .storeSession token expiresAt interval =>
      some (r.setState (r.state.storeSession token expiresAt interval))
    | .storeExpiry expiresAt => some (r.setState (r.state.storeExpiry expiresAt))
    | .clearSession => some (r.setState r.state.clearSession)
    | .scheduleReconnect now interval =>
      some (r.setState (r.state.scheduleReconnect now interval))

/-- What a critical section does to the session; `time` is the one a call of `markConnected` has
read. -/
def StatusEvent.apply (time : ℕ) (s : SessionState) : StatusEvent → SessionState
  | .callMarkConnected _ _ => s
  | .markConnected _ => s.markConnected time
  | .markDisconnected cause => s.markDisconnected cause
  | .storeSession token expiresAt interval => s.storeSession token expiresAt interval
  | .storeExpiry expiresAt => s.storeExpiry expiresAt
  | .clearSession => s.clearSession
  | .scheduleReconnect now interval => s.scheduleReconnect now interval

theorem StatusRun.state_of_step {r r' : StatusRun} {e : StatusEvent}
    (h : statusMachine.step r e = some r') : ∃ time, r'.state = e.apply time r.state := by
  cases e with
  | callMarkConnected i now =>
    obtain ⟨-, h⟩ := Option.ite_none_right_eq_some.mp h
    exact ⟨now, Option.some.inj h ▸ rfl⟩
  | markConnected i =>
    cases hi : r.marking i with
    | none => simp [statusMachine, hi] at h
    | some now =>
      simp only [statusMachine, hi, Option.some.injEq] at h
      exact ⟨now, h ▸ rfl⟩
  -- The others read no time.
  | _ => exact ⟨0, Option.some.inj h ▸ rfl⟩

/-- The client before anything has happened, at a time after the zero instant. -/
def StatusRun.start (now : ℕ) : StatusRun := ⟨.new, now, fun _ ↦ none, none⟩

/-! ## A reachable server has a recent mark -/

/-- The marks have read times between the start and the clock, and a reachable server was marked
connected last, at the time recorded. -/
structure StatusRun.Inv (r : StatusRun) : Prop where
  clock_pos : 0 < r.clock
  marking : ∀ i t, r.marking i = some t → 0 < t ∧ t ≤ r.clock
  reachable : r.state.serverReachable = true →
    r.lastMark = some (.connected r.state.lastRefreshOK) ∧
      0 < r.state.lastRefreshOK ∧ r.state.lastRefreshOK ≤ r.clock

namespace StatusRun.Inv

variable {r r' : StatusRun} {e : StatusEvent}

theorem start {now : ℕ} (hnow : 0 < now) : (StatusRun.start now).Inv where
  clock_pos := hnow
  marking _ _ h := nomatch h
  reachable h := nomatch h

theorem setState (hr : r.Inv) (s : SessionState)
    (hreach : s.serverReachable = r.state.serverReachable)
    (hlast : s.lastRefreshOK = r.state.lastRefreshOK) : (r.setState s).Inv where
  clock_pos := hr.clock_pos
  marking := hr.marking
  reachable h := by
    rw [StatusRun.setState, hlast]
    exact hr.reachable (hreach ▸ h)

theorem callMarkConnected (hr : r.Inv) {i now : ℕ} (hnow : r.clock ≤ now) :
    ({ r with clock := now }.setMarking i (some now)).Inv where
  clock_pos := Nat.lt_of_lt_of_le hr.clock_pos hnow
  marking j t h := by
    rw [StatusRun.setMarking] at h
    dsimp only at h
    split at h
    · rw [Option.some.injEq] at h
      exact ⟨h ▸ Nat.lt_of_lt_of_le hr.clock_pos hnow, Nat.le_of_eq h.symm⟩
    · obtain ⟨hpos, hle⟩ := hr.marking j t h
      exact ⟨hpos, Nat.le_trans hle hnow⟩
  reachable h := by
    obtain ⟨hmark, hpos, hle⟩ := hr.reachable h
    exact ⟨hmark, hpos, Nat.le_trans hle hnow⟩

theorem markConnected (hr : r.Inv) {i now : ℕ} (hi : r.marking i = some now) :
    StatusRun.Inv { (r.setState (r.state.markConnected now)).setMarking i none with
      lastMark := some (.connected now) } where
  clock_pos := hr.clock_pos
  marking j t h := by
    rw [StatusRun.setMarking] at h
    dsimp only at h
    split at h
    · exact nomatch h
    · exact hr.marking j t h
  reachable _ := ⟨rfl, hr.marking i now hi⟩

theorem step (hr : r.Inv) (hstep : statusMachine.step r e = some r') : r'.Inv := by
  cases e with
  | callMarkConnected i now =>
    obtain ⟨hnow, hstep⟩ := Option.ite_none_right_eq_some.mp hstep
    obtain rfl := Option.some.inj hstep
    exact hr.callMarkConnected hnow
  | markConnected i =>
    cases hi : r.marking i with
    | none => simp [statusMachine, hi] at hstep
    | some now =>
      have hr' := hr.markConnected hi
      simp only [statusMachine, hi, Option.some.injEq] at hstep
      exact hstep ▸ hr'
  | markDisconnected cause =>
    obtain rfl := Option.some.inj hstep
    exact ⟨hr.clock_pos, hr.marking, nofun⟩
  | storeSession token expiresAt interval =>
    obtain rfl := Option.some.inj hstep
    exact hr.setState (r.state.storeSession token expiresAt interval) rfl rfl
  | storeExpiry expiresAt =>
    obtain rfl := Option.some.inj hstep
    exact hr.setState (r.state.storeExpiry expiresAt) rfl rfl
  | clearSession =>
    obtain rfl := Option.some.inj hstep
    exact hr.setState r.state.clearSession rfl rfl
  | scheduleReconnect now interval =>
    obtain rfl := Option.some.inj hstep
    exact hr.setState (r.state.scheduleReconnect now interval) rfl rfl

theorem of_run {now : ℕ} {es : List StatusEvent} (hnow : 0 < now)
    (hrun : statusMachine.run (.start now) es = some r) : r.Inv :=
  Machine.invariant (fun _ _ _ hr hstep ↦ hr.step hstep) (.start hnow) hrun

end StatusRun.Inv

/-- **Authenticated.** The client counts as authenticated only if it was marked connected last, no
longer ago than twice the refresh interval (60 s for zero), and holds a token that has not expired.
-/
theorem authenticated_only_if_marked {start now since : ℕ} {es : List StatusEvent} {r : StatusRun}
    (hstart : 0 < start) (hrun : statusMachine.run (.start start) es = some r)
    (hnow : r.clock ≤ now) (hsince : now ≤ since)
    (hauth : r.state.isAuthenticated now since = true) :
    ∃ t, r.lastMark = some (.connected t) ∧ t ≤ now ∧
      (now : ℤ) - t ≤ (if r.state.refreshInterval = 0 then 60 * Clock.second
        else 2 * r.state.refreshInterval) ∧
      r.state.sessionToken ≠ [] ∧ (now : ℤ) < r.state.expiry * Clock.second := by
  have hinv := StatusRun.Inv.of_run hstart hrun
  obtain ⟨hreach, htoken, hexpiry, hstale⟩ := SessionState.isAuthenticated_iff.mp hauth
  obtain ⟨hmark, hpos, hle⟩ := hinv.reachable hreach
  refine ⟨_, hmark, Nat.le_trans hle hnow, ?_, htoken, hexpiry⟩
  rw [← SessionState.staleAfter_eq]
  have hage := hstale hpos
  omega

/-- A session of one second past the epoch is stored, and the mark that follows takes effect. -/
theorem authenticated_only_if_marked_stored :
    ∃ r, statusMachine.run (.start 1)
        [.storeSession [7] 1 30, .callMarkConnected 0 5, .markConnected 0] = some r ∧
      r.state.isAuthenticated 10 11 = true ∧
      ∃ t, r.lastMark = some (.connected t) ∧ t ≤ 10 ∧
        ((10 : ℕ) : ℤ) - t ≤ (if r.state.refreshInterval = 0 then 60 * Clock.second
          else 2 * r.state.refreshInterval) ∧
        r.state.sessionToken ≠ [] ∧ ((10 : ℕ) : ℤ) < r.state.expiry * Clock.second := by
  have hrun : statusMachine.run (.start 1)
      [.storeSession [7] 1 30, .callMarkConnected 0 5, .markConnected 0] = some _ := rfl
  exact ⟨_, hrun, by decide,
    authenticated_only_if_marked Nat.one_pos hrun (by decide) (Nat.le_succ 10) (by decide)⟩

end DroneBridge
