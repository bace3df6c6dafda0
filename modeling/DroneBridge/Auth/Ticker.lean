import DroneBridge.Auth.Skip

/-!
# The refresh ticker and the staleness window

The keepalive loop takes the period of its ticker from the refresh interval once, when it starts.
`IsAuthenticated` takes a session for stale after twice the refresh interval, and reads the interval
each time. Every later session brings an interval of its own. So the period stays within the window
exactly as long as no session is stored whose window is shorter than the period of a running loop.
-/

namespace DroneBridge

/-! ## The loops and their tickers -/

/-- The period of the ticker of a loop that starts now. -/
def SessionState.tickerPeriod (s : SessionState) : ℤ :=
  if s.refreshInterval = 0 then 30 * Clock.second else s.refreshInterval

structure TickerRun where
  client : AuthRun
  /-- The running tickers: the goroutine of the loop, and the period. -/
  tickers : List (ℕ × ℤ)

inductive TickerEvent
  /-- A keepalive loop reads the refresh interval and makes its ticker. -/
  | newTicker (i : ℕ)
  | client (e : AuthEvent)
  deriving DecidableEq, Repr

namespace TickerRun

def new (now : ℕ) : TickerRun := ⟨.new now, []⟩

variable (r : TickerRun)

def hasTicker (i : ℕ) : Bool := r.tickers.any (·.1 = i)

/-- A loop does nothing before it has made its ticker. -/
def mayStep : AuthEvent → Bool
  | .goroutine i _ => r.client.goroutines[i]? ≠ some .tick || r.hasTicker i
  | _ => true

/-- A loop that returns stops its ticker. -/
def tickersAfter : AuthEvent → List (ℕ × ℤ)
  | .goroutine i .stop => r.tickers.filter (·.1 ≠ i)
  | _ => r.tickers

end TickerRun

def tickerMachine (cfg : AuthConf) : Machine TickerRun TickerEvent where
  step r
    | .newTicker i =>
      if r.client.goroutines[i]? = some .tick ∧ r.hasTicker i = false then
        some { r with tickers := (i, r.client.status.state.tickerPeriod) :: r.tickers }
      else none
    | .client e =>
      if r.mayStep e then
        ((authMachine cfg).step r.client e).map fun client ↦ ⟨client, r.tickersAfter e⟩
      else none

/-! ## The refresh interval -/

/-- How long a session with this interval counts without a refresh. -/
def sessionWindow (interval : UInt16) : ℤ :=
  if interval = 0 then 60 * Clock.second else 2 * (interval.toNat * Clock.second)

def StatusEvent.interval : StatusEvent → Option UInt16
  | .storeSession _ _ interval => some interval
  | _ => none

theorem StatusRun.refreshInterval_step {r r' : StatusRun} {e : StatusEvent}
    (h : statusMachine.step r e = some r') :
    r'.state.refreshInterval =
      e.interval.elim r.state.refreshInterval fun v ↦ v.toNat * Clock.second := by
  obtain ⟨time, hstate⟩ := StatusRun.state_of_step h
  rw [hstate]
  cases e <;> rfl

namespace AuthRun

variable {s s' : AuthRun} {cfg : AuthConf} {e : AuthEvent}

/-- The critical section of the session that a step of the client executes. -/
def statusEvent (s : AuthRun) (cfg : AuthConf) : AuthEvent → Option StatusEvent
  | .goroutine i answer => (s.goroutines[i]?).bind (·.statusEvent cfg i answer)
  | _ => none

theorem step_status (h : (authMachine cfg).step s e = some s') :
    StatusStep s.status s'.status (s.statusEvent cfg e) := by
  cases e with
  | start => exact statusStep_none h rfl
  | forceReconnect =>
    obtain ⟨-, h⟩ := Option.ite_none_right_eq_some.mp h
    split at h
    · exact statusStep_none h rfl
    · exact statusStep_none h (status_closeConn s)
  | stop => exact statusStep_none (Option.ite_none_left_eq_some.mp h).2 rfl
  | goroutine i answer =>
    obtain ⟨pc, hpc, h⟩ := Option.bind_eq_some_iff.mp h
    rw [statusEvent, hpc]
    exact goroutineStep_status h

/-- The interval of the session that a step stores. -/
def storedInterval (s : AuthRun) (cfg : AuthConf) (e : AuthEvent) : Option UInt16 :=
  (s.statusEvent cfg e).bind StatusEvent.interval

theorem refreshInterval_step (h : (authMachine cfg).step s e = some s') :
    s'.status.state.refreshInterval =
      (s.storedInterval cfg e).elim s.status.state.refreshInterval
        fun v ↦ v.toNat * Clock.second := by
  have hstatus := step_status h
  rw [storedInterval]
  cases he : s.statusEvent cfg e with
  | none =>
    rw [he] at hstatus
    exact congrArg (·.state.refreshInterval) hstatus
  | some event =>
    rw [he] at hstatus
    exact StatusRun.refreshInterval_step hstatus

theorem staleAfter_step (h : (authMachine cfg).step s e = some s') :
    s'.status.state.staleAfter =
      (s.storedInterval cfg e).elim s.status.state.staleAfter sessionWindow := by
  rw [SessionState.staleAfter_eq, refreshInterval_step h]
  cases s.storedInterval cfg e with
  | none => exact (SessionState.staleAfter_eq _).symm
  | some v =>
    rw [Option.elim_some, Option.elim_some, sessionWindow]
    have hv : (v.toNat : ℤ) * Clock.second = 0 ↔ v = 0 := by
      rw [Int.mul_eq_zero, Int.natCast_eq_zero, ← UInt16.toNat_inj]
      exact or_iff_left (by decide)
    simp only [hv]

end AuthRun

/-! ## The period and the window -/

namespace TickerRun

variable {r r' : TickerRun} {cfg : AuthConf} {e : TickerEvent}

/-- The period of every ticker is at most the window of the current session. -/
def WithinWindow (r : TickerRun) : Prop :=
  ∀ q ∈ r.tickers, q.2 ≤ r.client.status.state.staleAfter

instance (r : TickerRun) : Decidable r.WithinWindow :=
  inferInstanceAs (Decidable (∀ q ∈ r.tickers, q.2 ≤ r.client.status.state.staleAfter))

/-- A session that is stored has a window no shorter than the period of any ticker. -/
def StoresWide (cfg : AuthConf) (r : TickerRun) : TickerEvent → Prop
  | .newTicker _ => True
  | .client e => ∀ v ∈ r.client.storedInterval cfg e, ∀ q ∈ r.tickers, q.2 ≤ sessionWindow v

-- The stored interval is looked up, and not every interval tried.
instance (cfg : AuthConf) (r : TickerRun) : ∀ e, Decidable (r.StoresWide cfg e)
  | .newTicker _ => instDecidableTrue
  | .client e => (r.client.storedInterval cfg e).decidableForallMem

def Nonneg (r : TickerRun) : Prop := 0 ≤ r.client.status.state.refreshInterval

theorem step_client {e : AuthEvent} (h : (tickerMachine cfg).step r (.client e) = some r') :
    (authMachine cfg).step r.client e = some r'.client ∧ r'.tickers = r.tickersAfter e := by
  obtain ⟨-, h⟩ := Option.ite_none_right_eq_some.mp h
  obtain ⟨client, hclient, rfl⟩ := Option.map_eq_some_iff.mp h
  exact ⟨hclient, rfl⟩

theorem step_newTicker {i : ℕ} (h : (tickerMachine cfg).step r (.newTicker i) = some r') :
    r' = { r with tickers := (i, r.client.status.state.tickerPeriod) :: r.tickers } :=
  (Option.some.inj (Option.ite_none_right_eq_some.mp h).2).symm

theorem Nonneg.step (hr : r.Nonneg) (h : (tickerMachine cfg).step r e = some r') : r'.Nonneg := by
  cases e with
  | newTicker i => exact step_newTicker h ▸ hr
  | client e =>
    rw [Nonneg, AuthRun.refreshInterval_step (step_client h).1]
    cases r.client.storedInterval cfg e with
    | none => exact hr
    | some v => exact Int.mul_nonneg (Int.natCast_nonneg _) (by decide)

theorem mem_tickers_of_mem_tickersAfter {e : AuthEvent} {q : ℕ × ℤ} (hq : q ∈ r.tickersAfter e) :
    q ∈ r.tickers := by
  unfold tickersAfter at hq
  split at hq
  · exact (List.mem_filter.mp hq).1
  · exact hq

theorem tickersAfter_eq_of_stored {e : AuthEvent} {v : UInt16}
    (hv : r.client.storedInterval cfg e = some v) : r.tickersAfter e = r.tickers := by
  unfold tickersAfter
  split
  next i =>
    obtain ⟨event, hevent, -⟩ := Option.bind_eq_some_iff.mp hv
    obtain ⟨pc, -, hpc⟩ := Option.bind_eq_some_iff.mp hevent
    cases pc <;> exact nomatch hpc
  next => rfl

/-- A step from within the window stays there exactly if it stores no session that is too short. -/
theorem withinWindow_step_iff (hr : r.Nonneg) (hwithin : r.WithinWindow)
    (h : (tickerMachine cfg).step r e = some r') : r'.WithinWindow ↔ r.StoresWide cfg e := by
  cases e with
  | newTicker i =>
    refine iff_of_true ?_ trivial
    obtain rfl := step_newTicker h
    refine List.forall_mem_cons.mpr ⟨?_, hwithin⟩
    -- A ticker that is made now has half the window for its period.
    rw [SessionState.staleAfter_eq, SessionState.tickerPeriod]
    rw [Nonneg] at hr
    dsimp only
    split
    · decide
    · omega
  | client e =>
    obtain ⟨hclient, htickers⟩ := step_client h
    rw [WithinWindow, htickers, AuthRun.staleAfter_step hclient, StoresWide]
    cases hv : r.client.storedInterval cfg e with
    | none =>
      exact iff_of_true (fun q hq ↦ hwithin q (mem_tickers_of_mem_tickersAfter hq)) nofun
    | some v =>
      rw [tickersAfter_eq_of_stored hv]
      exact ⟨fun hall w hw ↦ Option.some.inj hw ▸ hall, fun hall ↦ hall v rfl⟩

/-- Within the window, a session that was refreshed at the last tick counts until the next. -/
theorem WithinWindow.isAuthenticated (hwithin : r.WithinWindow) {q : ℕ × ℤ} (hq : q ∈ r.tickers)
    {now since : ℕ} (hreach : r.client.status.state.serverReachable = true)
    (htoken : r.client.token ≠ [])
    (hexpiry : (now : ℤ) < r.client.status.state.expiry * Clock.second)
    (hsince : (since : ℤ) - r.client.status.state.lastRefreshOK ≤ q.2) :
    r.client.status.state.isAuthenticated now since = true :=
  SessionState.isAuthenticated_iff.mpr
    ⟨hreach, htoken, hexpiry, fun _ ↦ Int.le_trans hsince (hwithin q hq)⟩

end TickerRun

/-- **Ticker and window.** The period of each running ticker is at most the staleness window,
exactly when no session is stored whose window is shorter than the period of a ticker running then.
Within the window an unexpired session counts from tick to tick. -/
theorem ticker_within_window_iff {cfg : AuthConf} {start : ℕ} {es : List TickerEvent}
    {r : TickerRun} (hrun : (tickerMachine cfg).run (.new start) es = some r) :
    ((∀ fs m, fs <+: es → (tickerMachine cfg).run (.new start) fs = some m → m.WithinWindow) ↔
      (tickerMachine cfg).Along (TickerRun.StoresWide cfg) (.new start) es) ∧
    (r.WithinWindow → ∀ q ∈ r.tickers, ∀ now since : ℕ,
      r.client.status.state.serverReachable = true → r.client.token ≠ [] →
      (now : ℤ) < r.client.status.state.expiry * Clock.second →
      (since : ℤ) - r.client.status.state.lastRefreshOK ≤ q.2 →
      r.client.status.state.isAuthenticated now since = true) := by
  refine ⟨Machine.forall_run_iff_along (fun _ _ _ hr h ↦ TickerRun.Nonneg.step hr h)
    (fun _ _ _ hr hwithin h ↦ TickerRun.withinWindow_step_iff hr hwithin h)
    (Int.le_refl 0) (List.forall_mem_nil _) hrun, ?_⟩
  intro hwithin q hq now since hreach htoken hexpiry hsince
  exact hwithin.isAuthenticated hq hreach htoken hexpiry hsince

/-- `Start` authenticates with this interval at 20 seconds, and the loop makes its ticker. -/
def firstTicker (interval : UInt16) : List TickerEvent :=
  (firstAuth interval).map .client ++ [.client (.goroutine 0 .ok), .client (.goroutine 0 .ok),
    .client (.goroutine 0 .ok), .newTicker 0]

/-- The ticker of a first session of 30 seconds. -/
theorem ticker_within_window_first :
    ∃ r, (tickerMachine fiveMinutes).run (.new 1) (firstTicker 30) = some r ∧
      r.tickers = [(0, 30 * Clock.second)] ∧
      (∀ fs m, fs <+: firstTicker 30 →
        (tickerMachine fiveMinutes).run (.new 1) fs = some m → m.WithinWindow) ∧
      r.client.status.state.isAuthenticated 49000000000 50000000000 = true := by
  have hrun : (tickerMachine fiveMinutes).run (.new 1) (firstTicker 30) = some _ := rfl
  refine ⟨_, hrun, rfl, (ticker_within_window_iff hrun).1.mpr (by decide), ?_⟩
  exact (ticker_within_window_iff hrun).2 (by decide) (0, 30 * Clock.second) List.mem_cons_self
    49000000000 50000000000 rfl nofun (by decide) (by decide)

/-- The first refresh is refused, and the new session has an interval of `interval`. -/
def shorterSession (interval : UInt16) : List TickerEvent :=
  [.ok, .ok, .now 20000000000, .ok,
    .refreshAck ⟨1, errInvalidToken, 0, 0⟩ (List.replicate 20 1), .ok, .now 20000000000, .ok, .ok,
    .dialled [10] 20000000000, .ok, .challenge,
    .authAck ⟨resultSuccess, 0, 0, [], List.replicate 20 2, 1000, interval⟩, .ok,
    .now 20000000000, .ok, .ok].map fun answer ↦ .client (.goroutine 0 answer)

/-- A session of 300 seconds, and then one of 60: the ticker goes on with 300 and the window is 120.
Two minutes after the mark the session does not count. -/
theorem ticker_beyond_window :
    ∃ r, (tickerMachine fiveMinutes).run (.new 1) (firstTicker 300 ++ shorterSession 60) = some r ∧
      r.tickers = [(0, 300 * Clock.second)] ∧
      r.client.status.state.staleAfter = 120 * Clock.second ∧
      r.client.status.state.lastRefreshOK = 20000000000 ∧
      r.client.tokenValid 141000000000 = true ∧ r.client.status.state.serverReachable = true ∧
      r.client.status.state.isAuthenticated 141000000000 141000000000 = false :=
  ⟨_, rfl, rfl, by decide, rfl, by decide, rfl, by decide⟩

end DroneBridge
