import DroneBridge.Camera.Effective
import DroneBridge.Lib.Clock
import DroneBridge.Lib.Goroutines

/-!
# Stopping the streamers

Streamer processes are started by a request, by the watchdog, which looks at every stream each 12 s,
and two seconds after one of them has exited. A restart kills what is left of the stream, waits
800 ms and starts it again. `StopStreamers` closes the channel of the watchdog, holds back for 5 s
the restarts that follow an exit, and waits for the processes that are tracked. It does not wait for
the goroutines: one that has passed its checks goes on to start a process, and so does an exit that
comes late.

The model has any number of goroutines that make requests, and interleaves all of them at every
point where one can see what another did. A step of a run carries what comes from outside: the time,
a request, a choice of `select`, the sensors, the statistics of a stream, and whether a process
could be started. A process exits whenever it likes; of the signals that it is sent only the fact is
kept. A goroutine that has read the channel for its `select` but has not looked at it yet is not
told from one that waits there.
-/

namespace DroneBridge

open Clock (second millisecond)

def streamWatchdogInterval : ℤ := 12 * second

def streamStatsStaleAfter : ℚ := 18

def streamRestartCooldown : ℤ := 20 * second

def streamLowFPSThreshold : ℚ := 16

def streamLowFPSWindows : ℕ := 3

structure StreamStats where
  ageSec : ℚ
  fpsWindow : ℚ
  deriving DecidableEq, Repr

/-- A process that was started for a camera. Processes are numbered. -/
structure StreamerProc where
  cameraID : Int64
  cmd : ℕ
  deriving DecidableEq, Repr

/-- The variables of the package, and what is known of the processes. -/
structure Streamers where
  watchdogCfg : Option Config := none
  /-- The number of the channel; each watchdog has one of its own. -/
  watchdogStop : ℕ := 0
  closed : List ℕ := []
  watchdogRunning : Bool := false
  lastRestartAt : Int64 → Option ℕ := fun _ ↦ none
  lowFPSStreak : Int64 → ℕ := fun _ ↦ 0
  suppressRestartUntil : ℕ := 0
  streamerProcs : List StreamerProc := []
  /-- The processes that have been started, in their order. -/
  launched : List StreamerProc := []
  /-- The processes that have been sent a signal to end. -/
  killed : List ℕ := []
  exited : List ℕ := []
  /-- The processes whose `ProcessState` is set. -/
  waited : List ℕ := []
  /-- The restarts by `restartOneStream` with their times, the latest first. -/
  restarts : List (Int64 × ℕ) := []
  /-- `StopStreamers` has returned, and neither `StartStreamers` nor `RestartStreamers` has been
  called since. -/
  stopped : Bool := false

def Streamers.started (s : Streamers) : ℕ := s.launched.length

/-! ## What the goroutines have still to do -/

inductive RestartAt
  | called (camID : Int64)
  /-- The cooldown is over, and the restart is not noted yet. -/
  | note (camID : Int64)
  | stop (stream : CameraStreamConfig)
  | sleep (wake : ℕ) (stream : CameraStreamConfig)
  /-- The process runs and is not tracked yet. -/
  | track (proc : StreamerProc)

/-- Points of `streamWatchdogLoop` and of the health check. -/
inductive LoopAt
  | top
  | select (channel : ℕ)
  | runStreamHealthCheck
  | streams (cfg : Config) (rest : List CameraStreamConfig)
  | stats (cfg : Config) (stream : CameraStreamConfig) (rest : List CameraStreamConfig)
  | restart (cfg : Config) (rest : List CameraStreamConfig) (point : RestartAt)

structure Ticker where
  next : ℕ
  pending : Bool := false

inductive StopAt
  | suppress
  | watchdog
  | take
  | kill (procs : List StreamerProc)
  | wait (proc : StreamerProc) (procs : List StreamerProc)
  | pkill
  | sleep (wake : ℕ)

inductive AfterStop
  | nothing
  | restart (cfg : Option Config)
  | start (cfg : Config)

def AfterStop.isStart : AfterStop → Bool
  | start _ => true
  | _ => false

inductive CallerAt
  | idle
  | stop (after : AfterStop) (point : StopAt)
  | restartSleep (wake : ℕ) (cfg : Option Config)
  | sync (cfg : Option Config)
  | scan (cfg : Config)
  /-- `any` says whether a stream has been started. -/
  | launch (cfg : Config) (multiCam any : Bool) (rest : List CameraStreamConfig)
  | track (cfg : Config) (multiCam : Bool) (rest : List CameraStreamConfig) (proc : StreamerProc)
  | stagger (cfg : Config) (multiCam : Bool) (rest : List CameraStreamConfig) (wake : ℕ)
  | startStreamWatchdog (cfg : Config)

inductive Routine
  | caller (point : CallerAt)
  /-- A loop with the number of the channel that was made for it. -/
  | watchdog (own : ℕ) (ticker : Ticker) (point : LoopAt)
  | process (cmd : ℕ)
  | waitStreamerProc (proc : StreamerProc)
  | waited (proc : StreamerProc)
  | exitSleep (cfg : Config) (camID : Int64) (wake : ℕ)
  | exitCheck (cfg : Config) (camID : Int64)
  | exitRestart (cfg : Config) (point : RestartAt)

inductive StreamerCall
  | stopStreamers
  | startStreamers (cfg : Option Config)
  | restartStreamers (cfg : Option Config)
  | startStreamWatchdog (cfg : Option Config)
  | stopStreamWatchdog

/-- What a step is given from outside. -/
inductive StreamerInput
  | go
  | call (c : StreamerCall)
  | fire
  | tick
  | close
  | scan (sensors : Int64 → Bool)
  | stats (st : Option StreamStats)
  | result (ok : Bool)

/-! ## The functions -/

namespace Streamers

def isStreamerRunningForCamera (s : Streamers) (camID : Int64) : Bool :=
  s.streamerProcs.any fun p ↦ p.cameraID = camID && p.cmd ∉ s.waited

def stopStreamerForCamera (s : Streamers) (camID : Int64) : Streamers :=
  { s with
    streamerProcs := s.streamerProcs.filter (·.cameraID ≠ camID)
    killed := (s.streamerProcs.filter (·.cameraID = camID)).map (·.cmd) ++ s.killed }

def stopStreamWatchdog (s : Streamers) : Streamers :=
  if s.watchdogRunning then
    { s with closed := s.watchdogStop :: s.closed, watchdogRunning := false }
  else s

def startStreamWatchdog (s : Streamers) (now : ℕ) (cfg : Config) : Streamers × List Routine :=
  if cfg.camera.enabled then
    let s := { s with watchdogCfg := some cfg }
    if s.watchdogRunning then (s, [])
    else
      ({ s with watchdogStop := s.watchdogStop + 1, watchdogRunning := true },
        [.watchdog (s.watchdogStop + 1) { next := Clock.add now streamWatchdogInterval } .top])
  else (s, [])

def nextProcess (s : Streamers) (stream : CameraStreamConfig) : StreamerProc :=
  ⟨stream.cameraId, s.started⟩

/-- The first half of `startOnePythonStreamer`, up to `cmd.Start`. -/
def startProcess (s : Streamers) (stream : CameraStreamConfig) : Streamers :=
  { s with launched := s.launched ++ [s.nextProcess stream] }

/-- The second half of `startOnePythonStreamer`. -/
def trackProcess (s : Streamers) (proc : StreamerProc) : Streamers :=
  { s with streamerProcs := s.streamerProcs ++ [proc] }

/-- The last restart of a camera was less than the cooldown ago. -/
def inCooldown (s : Streamers) (now : ℕ) (camID : Int64) : Bool :=
  match s.lastRestartAt camID with
  | some since => Clock.sub now since < streamRestartCooldown
  | none => false

def noteRestart (s : Streamers) (now : ℕ) (camID : Int64) : Streamers :=
  { s with
    lastRestartAt := Function.update s.lastRestartAt camID (some now)
    lowFPSStreak := Function.update s.lowFPSStreak camID 0
    restarts := (camID, now) :: s.restarts }

/-- Whether a running stream is restarted, and the number of windows in a row with a low frame rate.
-/
def judgeStats (s : Streamers) (now : ℕ) (camID : Int64) : Option StreamStats → Bool × ℕ
  | none =>
    (match s.lastRestartAt camID with
      | some since => streamRestartCooldown < Clock.sub now since
      | none => true, s.lowFPSStreak camID)
  | some st =>
    if streamStatsStaleAfter < st.ageSec then (true, s.lowFPSStreak camID)
    else if 0 < st.fpsWindow ∧ st.fpsWindow < streamLowFPSThreshold then
      (streamLowFPSWindows ≤ s.lowFPSStreak camID + 1, s.lowFPSStreak camID + 1)
    else (false, 0)

/-- One step of `restartOneStream`: what is left of it, and the goroutines that it starts. -/
def restartOneStream (s : Streamers) (now : ℕ) (cfg : Config) :
    RestartAt → StreamerInput → Option (Streamers × Option RestartAt × List Routine)
  | .called camID, .go =>
    if s.inCooldown now camID then some (s, none, []) else some (s, some (.note camID), [])
  | .note camID, .go =>
    match cfg.camera.streams.find? fun st ↦ st.cameraId = camID && st.enabled with
    | none => some (s.noteRestart now camID, none, [])
    | some stream => some (s.noteRestart now camID, some (.stop stream), [])
  | .stop stream, .go =>
    some (s.stopStreamerForCamera stream.cameraId,
      some (.sleep (Clock.add now (800 * millisecond)) stream), [])
  | .sleep wake stream, .result ok =>
    if wake ≤ now then
      if ok then
        some (s.startProcess stream, some (.track (s.nextProcess stream)), [.process s.started])
      else some (s, none, [])
    else none
  | .track proc, .go => some (s.trackProcess proc, none, [.waitStreamerProc proc])
  | _, _ => none

/-- The goroutine that looks after a process which has exited. -/
def onStreamerExited (s : Streamers) (now : ℕ) (camID : Int64) : List Routine :=
  match s.watchdogCfg with
  | none => []
  | some cfg =>
    if cfg.camera.enabled then [.exitSleep cfg camID (Clock.add now (2 * second))] else []

end Streamers

def filterStreamsWithSensors (sensors : Int64 → Bool) (streams : List CameraStreamConfig) :
    List CameraStreamConfig :=
  streams.filter fun st ↦ sensors st.cameraId

def sortStreamsForStartup (streams : List CameraStreamConfig) : List CameraStreamConfig :=
  streams.insertionSort fun s t ↦ s.cameraId ≤ t.cameraId

def streamerStaggerAfter (multiCam : Bool) : ℤ :=
  if multiCam then 2500 * millisecond else 800 * millisecond

/-! ## The steps -/

def streamWatchdogLoop (now : ℕ) (s : Streamers) (own : ℕ) (ticker : Ticker) :
    LoopAt → StreamerInput → Option (Streamers × List Routine)
  | point, .fire =>
    if ticker.next ≤ now then
      some (s, [.watchdog own ⟨Clock.add ticker.next streamWatchdogInterval, true⟩ point])
    else none
  | .top, .go => some (s, [.watchdog own ticker (.select s.watchdogStop)])
  | .select channel, .close => if channel ∈ s.closed then some (s, []) else none
  | .select _, .tick =>
    if ticker.pending then
      some (s, [.watchdog own { ticker with pending := false } .runStreamHealthCheck])
    else none
  | .runStreamHealthCheck, .go =>
    match s.watchdogCfg with
    | none => some (s, [.watchdog own ticker .top])
    | some cfg =>
      if cfg.camera.enabled then
        some (s, [.watchdog own ticker (.streams cfg (enabledStreamsSorted cfg))])
      else some (s, [.watchdog own ticker .top])
  | .streams _ [], .go => some (s, [.watchdog own ticker .top])
  | .streams cfg (stream :: rest), .scan sensors =>
    if cfg.camera.skipMissingSensors && (filterStreamsWithSensors sensors [stream]).isEmpty then
      some (s, [.watchdog own ticker (.streams cfg rest)])
    else if s.isStreamerRunningForCamera stream.cameraId then
      some (s, [.watchdog own ticker (.stats cfg stream rest)])
    else some (s, [.watchdog own ticker (.restart cfg rest (.called stream.cameraId))])
  | .stats cfg stream rest, .stats st =>
    let verdict := s.judgeStats now stream.cameraId st
    some ({ s with
        lowFPSStreak := Function.update s.lowFPSStreak stream.cameraId verdict.2 },
      [.watchdog own ticker
        (if verdict.1 then .restart cfg rest (.called stream.cameraId) else .streams cfg rest)])
  | .restart cfg rest point, input =>
    (s.restartOneStream now cfg point input).map fun (s, point, started) ↦
      (s, .watchdog own ticker (match point with
        | some point => .restart cfg rest point
        | none => .streams cfg rest) :: started)
  | _, _ => none

/-- A step of `StopStreamers`. The step in which it returns is not one of them. -/
def stopStreamers (now : ℕ) (s : Streamers) : StopAt → StreamerInput → Option (Streamers × StopAt)
  | .suppress, .go =>
    some ({ s with suppressRestartUntil := Clock.add now (5 * second) }, .watchdog)
  | .watchdog, .go => some (s.stopStreamWatchdog, .take)
  | .take, .go => some ({ s with streamerProcs := [] }, .kill s.streamerProcs)
  | .kill (proc :: procs), .go => some ({ s with killed := proc.cmd :: s.killed }, .wait proc procs)
  | .wait proc procs, .go => if proc.cmd ∈ s.exited then some (s, .kill procs) else none
  | .kill [], .go => some (s, .pkill)
  | .pkill, .result ok =>
    -- `ok` says whether the signal was sent to every process by its name
    some ({ s with killed := if ok then s.launched.map (·.cmd) ++ s.killed else s.killed },
      .sleep (Clock.add now (500 * millisecond)))
  | _, _ => none

def returnFromStop (now : ℕ) (s : Streamers) : AfterStop → Streamers × CallerAt
  | .nothing => ({ s with stopped := true }, .idle)
  | .restart cfg => ({ s with stopped := true }, .restartSleep (Clock.add now second) cfg)
  | .start cfg => (s, .scan cfg)

def callStreamers (E : StreamerEnv) (now : ℕ) (s : Streamers) :
    CallerAt → StreamerInput → Option (Streamers × List Routine)
  | .idle, .call .stopStreamers => some (s, [.caller (.stop .nothing .suppress)])
  | .idle, .call (.startStreamers cfg) => some ({ s with stopped := false }, [.caller (.sync cfg)])
  | .idle, .call (.restartStreamers cfg) =>
    some ({ s with stopped := false }, [.caller (.stop (.restart cfg) .suppress)])
  | .idle, .call (.startStreamWatchdog none) => some (s, [.caller .idle])
  | .idle, .call (.startStreamWatchdog (some cfg)) =>
    some ((s.startStreamWatchdog now cfg).1,
      .caller .idle :: (s.startStreamWatchdog now cfg).2)
  | .idle, .call .stopStreamWatchdog => some (s.stopStreamWatchdog, [.caller .idle])
  | .stop after (.sleep wake), .go =>
    if wake ≤ now then
      some ((returnFromStop now s after).1, [.caller (returnFromStop now s after).2])
    else none
  | .stop after point, input =>
    (stopStreamers now s point input).map fun (s, point) ↦ (s, [.caller (.stop after point)])
  | .restartSleep wake cfg, .go =>
    if wake ≤ now then some ({ s with stopped := false }, [.caller (.sync cfg)]) else none
  | .sync none, .result _ => some (s, [.caller .idle])
  | .sync (some cfg), .result ok =>
    -- `ok` says whether the files could be written
    match syncStreamerConfigFiles E cfg, cfg.camera.enabled && ok with
    | .ok _, true =>
      some (s, [.caller (.stop (.start { cfg with camera := cfg.camera.ensureDefaultStreams })
        .suppress)])
    | _, _ => some (s, [.caller .idle])
  | .scan cfg, .scan sensors =>
    let streams := enabledStreamsSorted cfg
    let streams :=
      if cfg.camera.skipMissingSensors then filterStreamsWithSensors sensors streams else streams
    let streams := sortStreamsForStartup streams
    some (s, [.caller (.launch cfg (1 < streams.length) false streams)])
  | .launch cfg _ any [], .go =>
    some (s, [.caller (if any then .startStreamWatchdog cfg else .idle)])
  | .launch cfg multiCam any (stream :: rest), .result ok =>
    if ok then
      some (s.startProcess stream,
        [.caller (.track cfg multiCam rest (s.nextProcess stream)), .process s.started])
    else some (s, [.caller (.launch cfg multiCam any rest)])
  | .track cfg multiCam rest proc, .go =>
    some (s.trackProcess proc,
      [.caller (if rest.isEmpty then .launch cfg multiCam true rest
        else .stagger cfg multiCam rest (Clock.add now (streamerStaggerAfter multiCam))),
        .waitStreamerProc proc])
  | .stagger cfg multiCam rest wake, .go =>
    if wake ≤ now then some (s, [.caller (.launch cfg multiCam true rest)]) else none
  | .startStreamWatchdog cfg, .go =>
    some ((s.startStreamWatchdog now cfg).1,
      .caller .idle :: (s.startStreamWatchdog now cfg).2)
  | _, _ => none

def streamerExec (E : StreamerEnv) (now : ℕ) (s : Streamers) :
    Routine → StreamerInput → Option (Streamers × List Routine)
  | .caller point, input => callStreamers E now s point input
  | .watchdog own ticker point, input => streamWatchdogLoop now s own ticker point input
  | .process cmd, .go => some ({ s with exited := cmd :: s.exited }, [])
  | .waitStreamerProc proc, .result ok =>
    -- The state is set unless `StopStreamers` was given it.
    if proc.cmd ∈ s.exited then
      some ({ s with waited := if ok then proc.cmd :: s.waited else s.waited }, [.waited proc])
    else none
  | .waited proc, .go =>
    some ({ s with streamerProcs := s.streamerProcs.eraseP (·.cmd = proc.cmd) },
      s.onStreamerExited now proc.cameraID)
  | .exitSleep cfg camID wake, .go =>
    if wake ≤ now then
      some (s, if now < s.suppressRestartUntil then [] else [.exitCheck cfg camID])
    else none
  | .exitCheck cfg camID, .go =>
    some (s, if s.isStreamerRunningForCamera camID then [] else
      [.exitRestart cfg (.called camID)])
  | .exitRestart cfg point, input =>
    (s.restartOneStream now cfg point input).map fun (s, point, started) ↦
      (s, (point.map (Routine.exitRestart cfg)).toList ++ started)
  | _, _ => none

def streamers (E : StreamerEnv) : Goroutines Streamers Routine StreamerInput := ⟨streamerExec E⟩

/-- So many goroutines that make requests, and no streamer. -/
def streamersAtRest (n : ℕ) : GoPool Streamers Routine :=
  ⟨0, {}, List.replicate n (.caller .idle)⟩

/-! ## Nothing is started while they are stopped -/

def RestartAt.quiet : RestartAt → Bool
  | track _ => true
  | _ => false

def CallerAt.quiet : CallerAt → Bool
  | idle | restartSleep .. | startStreamWatchdog _ => true
  | stop after _ => !after.isStart
  | sync cfg => cfg.isNone
  | scan _ => false
  | launch _ _ _ rest | track _ _ rest _ | stagger _ _ rest _ => rest.isEmpty

def LoopAt.quiet : LoopAt → Bool
  | top | select _ => true
  | runStreamHealthCheck | stats .. => false
  | streams _ rest => rest.isEmpty
  | restart _ rest point => rest.isEmpty && point.quiet

/-- It starts no process before it is given a request, takes a tick or ends the sleep that follows
an exit. -/
def Routine.quiet : Routine → Bool
  | caller point => point.quiet
  | watchdog _ _ point => point.quiet
  | process _ | waitStreamerProc _ | waited _ | exitSleep .. => true
  | exitCheck .. => false
  | exitRestart _ point => point.quiet

/-- When `StopStreamers` returns, all goroutines are quiet. After that a watchdog does not take a
tick, and the sleep that follows an exit ends while restarts are held back. -/
def StopsClean (p : GoPool Streamers Routine) (e : GoEvent StreamerInput) : Prop :=
  match p.routines[e.routine]?, e.input with
  | some (.caller (.stop after (.sleep _))), _ =>
    after.isStart = false → ∀ r ∈ p.routines, r.quiet = true
  | some (.watchdog _ _ (.select _)), .tick => p.memory.stopped = false
  | some (.exitSleep ..), _ =>
    p.memory.stopped = true → e.now < p.memory.suppressRestartUntil
  | _, _ => True

instance (p : GoPool Streamers Routine) (e : GoEvent StreamerInput) :
    Decidable (StopsClean p e) := by
  unfold StopsClean
  split <;> infer_instance

section

variable {E : StreamerEnv} {now : ℕ} {s s' : Streamers} {rs : List Routine} {r : Routine}
  {input : StreamerInput}

/-- What the goroutines do that follow a process until its camera is restarted. -/
inductive ExitStep (now : ℕ) (s : Streamers) : Routine → Streamers → List Routine → Prop
  | exited (cmd : ℕ) : ExitStep now s (.process cmd) { s with exited := cmd :: s.exited } []
  | waits (proc : StreamerProc) (waited : List ℕ) (hexited : proc.cmd ∈ s.exited) :
      ExitStep now s (.waitStreamerProc proc) { s with waited := waited } [.waited proc]
  | removes (proc : StreamerProc) :
      ExitStep now s (.waited proc)
        { s with streamerProcs := s.streamerProcs.eraseP (·.cmd = proc.cmd) }
        (s.onStreamerExited now proc.cameraID)
  | suppressed (cfg : Config) (camID : Int64) (wake : ℕ) :
      ExitStep now s (.exitSleep cfg camID wake) s []
  | wakes (cfg : Config) (camID : Int64) (wake : ℕ) (hnow : s.suppressRestartUntil ≤ now) :
      ExitStep now s (.exitSleep cfg camID wake) s [.exitCheck cfg camID]
  | running (cfg : Config) (camID : Int64) : ExitStep now s (.exitCheck cfg camID) s []
  | restarts (cfg : Config) (camID : Int64) :
      ExitStep now s (.exitCheck cfg camID) s [.exitRestart cfg (.called camID)]

theorem streamerExec_cases (h : streamerExec E now s r input = some (s', rs)) :
    (∃ point, r = .caller point ∧ callStreamers E now s point input = some (s', rs)) ∨
    (∃ own ticker point, r = .watchdog own ticker point ∧
      streamWatchdogLoop now s own ticker point input = some (s', rs)) ∨
    (∃ cfg point point' more, r = .exitRestart cfg point ∧
      s.restartOneStream now cfg point input = some (s', point', more) ∧
      rs = (point'.map (.exitRestart cfg)).toList ++ more) ∨
    ExitStep now s r s' rs := by
  cases r with
  | caller point => exact .inl ⟨point, rfl, h⟩
  | watchdog own ticker point => exact .inr (.inl ⟨own, ticker, point, rfl, h⟩)
  | exitRestart cfg point =>
    obtain ⟨⟨s₁, point', more⟩, hstep, heq⟩ := Option.map_eq_some_iff.mp h
    cases heq
    exact .inr (.inr (.inl ⟨cfg, point, point', more, rfl, hstep, rfl⟩))
  | process cmd =>
    cases input <;> cases h
    exact .inr (.inr (.inr (.exited cmd)))
  | waitStreamerProc proc =>
    cases input <;> try cases h
    obtain ⟨hexited, h⟩ := Option.ite_none_right_eq_some.mp h
    cases h
    exact .inr (.inr (.inr (.waits proc _ hexited)))
  | waited proc =>
    cases input <;> cases h
    exact .inr (.inr (.inr (.removes proc)))
  | exitSleep cfg camID wake =>
    cases input <;> try cases h
    obtain ⟨-, h⟩ := Option.ite_none_right_eq_some.mp h
    cases h
    refine .inr (.inr (.inr ?_))
    split
    · exact .suppressed cfg camID wake
    · exact .wakes cfg camID wake (Nat.not_lt.mp ‹_›)
  | exitCheck cfg camID =>
    cases input <;> cases h
    refine .inr (.inr (.inr ?_))
    split
    · exact .running cfg camID
    · exact .restarts cfg camID

/-- What is left of a restart once its process runs. -/
theorem Streamers.restartOneStream_of_quiet {cfg : Config} {point : RestartAt}
    {left : Option RestartAt × List Routine} (hpoint : point.quiet = true)
    (h : s.restartOneStream now cfg point input = some (s', left)) :
    s'.started = s.started ∧ left.1 = none ∧ ∀ u ∈ left.2, u.quiet = true := by
  cases point with
  | track proc =>
    cases input <;> cases h
    exact ⟨rfl, rfl, List.forall_mem_singleton.mpr rfl⟩
  | _ => cases hpoint

theorem Streamers.restartOneStream_stopped {cfg : Config} {point : RestartAt}
    {left : Option RestartAt × List Routine}
    (h : s.restartOneStream now cfg point input = some (s', left)) : s'.stopped = s.stopped := by
  revert h
  fun_cases s.restartOneStream now cfg point input <;> intro h <;> cases h <;> rfl

theorem streamWatchdogLoop_stopped {own : ℕ} {ticker : Ticker} {point : LoopAt}
    (h : streamWatchdogLoop now s own ticker point input = some (s', rs)) :
    s'.stopped = s.stopped := by
  have hrestart : ∀ {cfg : Config} {point : RestartAt}
      {f : Streamers × Option RestartAt × List Routine → List Routine},
      (s.restartOneStream now cfg point input).map (fun q ↦ (q.1, f q)) = some (s', rs) →
        s'.stopped = s.stopped := by
    intro cfg point f h
    obtain ⟨⟨s₁, left⟩, hstep, heq⟩ := Option.map_eq_some_iff.mp h
    cases heq
    exact Streamers.restartOneStream_stopped hstep
  revert h
  fun_cases streamWatchdogLoop now s own ticker point input <;> intro h
  all_goals first
    | contradiction
    | exact hrestart h
    | (cases h; rfl)

theorem eq_exitSleep_of_mem_onStreamerExited {camID : Int64}
    (h : r ∈ s.onStreamerExited now camID) : ∃ cfg wake, r = .exitSleep cfg camID wake := by
  revert h
  fun_cases s.onStreamerExited now camID <;> intro h
  case case2 cfg _ _ => exact ⟨cfg, _, List.mem_singleton.mp h⟩
  all_goals cases h

theorem stopStreamWatchdog_frame :
    s.stopStreamWatchdog.started = s.started ∧ s.stopStreamWatchdog.stopped = s.stopped := by
  rw [Streamers.stopStreamWatchdog]
  split <;> exact ⟨rfl, rfl⟩

theorem startStreamWatchdog_frame {cfg : Config} :
    (s.startStreamWatchdog now cfg).1.started = s.started ∧
      (s.startStreamWatchdog now cfg).1.stopped = s.stopped := by
  fun_cases s.startStreamWatchdog now cfg <;> exact ⟨rfl, rfl⟩

theorem quiet_startStreamWatchdog {cfg : Config} :
    ∀ u ∈ (s.startStreamWatchdog now cfg).2, u.quiet = true := by
  fun_cases s.startStreamWatchdog now cfg
  all_goals simp [Routine.quiet, LoopAt.quiet]

theorem stopStreamers_frame {point point' : StopAt}
    (h : stopStreamers now s point input = some (s', point')) :
    s'.started = s.started ∧ s'.stopped = s.stopped := by
  revert h
  fun_cases stopStreamers now s point input <;> intro h <;> cases h
  all_goals first
    | exact stopStreamWatchdog_frame
    | exact ⟨rfl, rfl⟩

/-- A step of `StopStreamers` is its return, or leaves it at another point. -/
theorem callStreamers_stop {after : AfterStop} {point : StopAt}
    (h : callStreamers E now s (.stop after point) input = some (s', rs)) :
    (∃ wake, point = .sleep wake ∧ s' = (returnFromStop now s after).1 ∧
      rs = [.caller (returnFromStop now s after).2]) ∨
    ∃ point', stopStreamers now s point input = some (s', point') ∧
      rs = [.caller (.stop after point')] := by
  have hinside : (stopStreamers now s point input).map
      (fun (s, point) ↦ (s, [.caller (.stop after point)])) = some (s', rs) →
        ∃ point', stopStreamers now s point input = some (s', point') ∧
          rs = [.caller (.stop after point')] := by
    intro h
    obtain ⟨⟨s₁, next⟩, hstep, heq⟩ := Option.map_eq_some_iff.mp h
    cases heq
    exact ⟨next, hstep, rfl⟩
  cases point with
  | sleep wake =>
    cases input with
    | go =>
      obtain ⟨-, h⟩ := Option.ite_none_right_eq_some.mp h
      cases h
      exact .inl ⟨wake, rfl, rfl, rfl⟩
    | _ => exact .inr (hinside h)
  | _ => exact .inr (hinside h)

theorem callStreamers_of_quiet {point : CallerAt} (hpoint : point.quiet = true)
    (h : callStreamers E now s point input = some (s', rs)) :
    s'.started = s.started ∧ (s'.stopped = true → ∀ u ∈ rs, u.quiet = true) := by
  cases point with
  | idle =>
    cases input with
    | call c =>
      cases c with
      | stopStreamers =>
        cases h
        exact ⟨rfl, fun _ ↦ List.forall_mem_singleton.mpr rfl⟩
      | startStreamWatchdog cfg =>
        cases cfg with
        | none =>
          cases h
          exact ⟨rfl, fun _ ↦ List.forall_mem_singleton.mpr rfl⟩
        | some cfg =>
          cases h
          exact ⟨startStreamWatchdog_frame.1, fun _ ↦
            List.forall_mem_cons.mpr ⟨rfl, quiet_startStreamWatchdog⟩⟩
      | stopStreamWatchdog =>
        cases h
        exact ⟨stopStreamWatchdog_frame.1, fun _ ↦ List.forall_mem_singleton.mpr rfl⟩
      | startStreamers | restartStreamers =>
        cases h
        exact ⟨rfl, fun hs ↦ absurd hs Bool.false_ne_true⟩
    | _ => cases h
  | stop after point =>
    rcases callStreamers_stop h with ⟨wake, rfl, rfl, rfl⟩ | ⟨next, hstep, rfl⟩
    · cases after with
      | start cfg => cases hpoint
      | _ => exact ⟨rfl, fun _ ↦ List.forall_mem_singleton.mpr rfl⟩
    · exact ⟨(stopStreamers_frame hstep).1, fun _ ↦ List.forall_mem_singleton.mpr hpoint⟩
  | restartSleep wake cfg =>
    cases input with
    | go =>
      obtain ⟨-, h⟩ := Option.ite_none_right_eq_some.mp h
      cases h
      exact ⟨rfl, fun hs ↦ absurd hs Bool.false_ne_true⟩
    | _ => cases h
  | sync cfg =>
    obtain rfl : cfg = none := Option.isNone_iff_eq_none.mp hpoint
    cases input <;> cases h
    exact ⟨rfl, fun _ ↦ List.forall_mem_singleton.mpr rfl⟩
  | scan cfg => cases hpoint
  | launch cfg multiCam any rest =>
    -- A start that has launched all its streams.
    obtain rfl : rest = [] := List.isEmpty_iff.mp hpoint
    cases input <;> cases h
    refine ⟨rfl, fun _ ↦ List.forall_mem_singleton.mpr ?_⟩
    cases any <;> rfl
  | track cfg multiCam rest proc =>
    obtain rfl : rest = [] := List.isEmpty_iff.mp hpoint
    cases input <;> cases h
    exact ⟨rfl, fun _ ↦ List.forall_mem_cons.mpr ⟨rfl, List.forall_mem_singleton.mpr rfl⟩⟩
  | stagger cfg multiCam rest wake =>
    cases input <;> try cases h
    obtain ⟨-, h⟩ := Option.ite_none_right_eq_some.mp h
    cases h
    exact ⟨rfl, fun _ ↦ List.forall_mem_singleton.mpr hpoint⟩
  | startStreamWatchdog cfg =>
    cases input <;> cases h
    exact ⟨startStreamWatchdog_frame.1, fun _ ↦
      List.forall_mem_cons.mpr ⟨rfl, quiet_startStreamWatchdog⟩⟩

theorem streamWatchdogLoop_of_quiet {own : ℕ} {ticker : Ticker} {point : LoopAt}
    (hpoint : point.quiet = true)
    (h : streamWatchdogLoop now s own ticker point input = some (s', rs)) :
    s'.started = s.started ∧
      ((∀ u ∈ rs, u.quiet = true) ∨ (∃ channel, point = .select channel) ∧ input = .tick) := by
  revert h hpoint
  fun_cases streamWatchdogLoop now s own ticker point input <;> intro hpoint h
  case case16 cfg rest point _ =>
    -- The process of this restart runs, and no stream is left to look at.
    obtain ⟨hrest, hpoint⟩ := (Bool.and_eq_true _ _).mp hpoint
    obtain ⟨⟨s₁, left⟩, hstep, heq⟩ := Option.map_eq_some_iff.mp h
    obtain ⟨hsame, hnone, hquiet⟩ := Streamers.restartOneStream_of_quiet hpoint hstep
    cases heq
    exact ⟨hsame, .inl (List.forall_mem_cons.mpr ⟨by rw [hnone]; exact hrest, hquiet⟩)⟩
  all_goals first
    | contradiction
    | exact absurd hpoint Bool.false_ne_true
    | (cases h; exact ⟨rfl, .inl (List.forall_mem_singleton.mpr hpoint)⟩)
    | (cases h; exact ⟨rfl, by simp [Routine.quiet, LoopAt.quiet]⟩)

/-- A quiet goroutine starts no process. While the streamers are stopped it stays quiet, unless it
takes a tick or ends its sleep too late. -/
theorem streamerExec_of_quiet (hr : r.quiet = true)
    (h : streamerExec E now s r input = some (s', rs)) :
    s'.started = s.started ∧ (s'.stopped = true → (∀ u ∈ rs, u.quiet = true) ∨
      (∃ own ticker channel, r = .watchdog own ticker (.select channel)) ∧ input = .tick ∨
      (∃ cfg camID wake, r = .exitSleep cfg camID wake) ∧ s.suppressRestartUntil ≤ now) := by
  rcases streamerExec_cases h with ⟨point, rfl, h⟩ | ⟨own, ticker, point, rfl, h⟩ |
    ⟨cfg, point, point', more, rfl, hstep, rfl⟩ | hexit
  · exact (callStreamers_of_quiet hr h).imp_right fun hquiet hs ↦ .inl (hquiet hs)
  · refine (streamWatchdogLoop_of_quiet hr h).imp_right fun hquiet _ ↦ hquiet.imp_right ?_
    rintro ⟨⟨channel, rfl⟩, hinput⟩
    exact .inl ⟨⟨own, ticker, channel, rfl⟩, hinput⟩
  · obtain ⟨hsame, hnone, hquiet⟩ := Streamers.restartOneStream_of_quiet hr hstep
    obtain rfl : point' = none := hnone
    exact ⟨hsame, fun _ ↦ .inl hquiet⟩
  · cases hexit with
    | exited | suppressed => exact ⟨rfl, fun _ ↦ .inl (List.forall_mem_nil _)⟩
    | waits => exact ⟨rfl, fun _ ↦ .inl (List.forall_mem_singleton.mpr rfl)⟩
    | removes =>
      refine ⟨rfl, fun _ ↦ .inl fun u hu ↦ ?_⟩
      obtain ⟨cfg, wake, rfl⟩ := eq_exitSleep_of_mem_onStreamerExited hu
      rfl
    | wakes cfg camID wake hnow => exact ⟨rfl, fun _ ↦ .inr (.inr ⟨⟨cfg, camID, wake, rfl⟩, hnow⟩)⟩
    | running | restarts => cases hr

/-- Only the return of a `StopStreamers` that is not part of a start makes the streamers stopped. -/
theorem callStreamers_into_stopped {point : CallerAt}
    (h : callStreamers E now s point input = some (s', rs)) (hs : s.stopped = false)
    (hs' : s'.stopped = true) :
    (∃ after wake, point = .stop after (.sleep wake) ∧ after.isStart = false) ∧
      ∀ u ∈ rs, u.quiet = true := by
  have hchanged : s'.stopped ≠ s.stopped := by simp [hs, hs']
  by_cases hstop : ∃ after point', point = .stop after point'
  · obtain ⟨after, point, rfl⟩ := hstop
    rcases callStreamers_stop h with ⟨wake, rfl, rfl, rfl⟩ | ⟨next, hstep, rfl⟩
    · cases after with
      | start cfg => exact absurd rfl hchanged
      | _ => exact ⟨⟨_, wake, rfl, rfl⟩, List.forall_mem_singleton.mpr rfl⟩
    · exact absurd (stopStreamers_frame hstep).2 hchanged
  · -- Elsewhere the flag is kept, or cleared by a call.
    revert h hstop
    fun_cases callStreamers E now s point input <;> intro h hstop
    all_goals first
      | contradiction
      | exact absurd ⟨_, _, rfl⟩ hstop
      | (cases h; exact absurd rfl hchanged)
      | (cases h; exact absurd hs' Bool.false_ne_true)
      | (cases h; exact absurd startStreamWatchdog_frame.2 hchanged)
      | (cases h; exact absurd stopStreamWatchdog_frame.2 hchanged)

theorem streamerExec_into_stopped (h : streamerExec E now s r input = some (s', rs))
    (hs : s.stopped = false) (hs' : s'.stopped = true) :
    (∃ after wake, r = .caller (.stop after (.sleep wake)) ∧ after.isStart = false) ∧
      ∀ u ∈ rs, u.quiet = true := by
  have hchanged : s'.stopped ≠ s.stopped := by simp [hs, hs']
  rcases streamerExec_cases h with ⟨point, rfl, h⟩ | ⟨own, ticker, point, rfl, h⟩ |
    ⟨cfg, point, point', more, rfl, hstep, -⟩ | hexit
  · obtain ⟨⟨after, wake, rfl, hafter⟩, hquiet⟩ := callStreamers_into_stopped h hs hs'
    exact ⟨⟨after, wake, rfl, hafter⟩, hquiet⟩
  · exact absurd (streamWatchdogLoop_stopped h) hchanged
  · exact absurd (Streamers.restartOneStream_stopped hstep) hchanged
  · cases hexit <;> exact absurd rfl hchanged

/-- **While the streamers are stopped all goroutines are quiet**, in every run whose steps stop
clean. -/
theorem quiet_of_stopped {n : ℕ} {es : List (GoEvent StreamerInput)}
    {p : GoPool Streamers Routine}
    (hclean : (streamers E).machine.Along StopsClean (streamersAtRest n) es)
    (hrun : (streamers E).machine.run (streamersAtRest n) es = some p)
    (hstopped : p.memory.stopped = true) : ∀ u ∈ p.routines, u.quiet = true := by
  refine Goroutines.quiet_of_run (K := fun s ↦ s.stopped = true) ?_
    (fun h ↦ absurd h Bool.false_ne_true) hclean hrun hstopped
  intro p e r s' left hclean hr hexec hs' ih
  cases hs : p.memory.stopped with
  | false =>
    obtain ⟨⟨after, wake, rfl, hafter⟩, hleft⟩ := streamerExec_into_stopped hexec hs hs'
    rw [StopsClean, hr] at hclean
    exact ⟨hclean hafter, hleft⟩
  | true =>
    have hall := ih hs
    have hquiet := (streamerExec_of_quiet (hall r (List.mem_of_getElem? hr)) hexec).2 hs'
    refine ⟨hall, ?_⟩
    rcases hquiet with hleft | ⟨⟨own, ticker, channel, rfl⟩, hinput⟩ |
      ⟨⟨cfg, camID, wake, rfl⟩, hnow⟩
    · exact hleft
    · rw [StopsClean, hr, hinput] at hclean
      exact absurd (hclean.symm.trans hs) Bool.false_ne_true
    · rw [StopsClean, hr] at hclean
      exact absurd (hclean hs) (Nat.not_lt.mpr hnow)

/-- **No streamer process is started while they are stopped**, if no restart, health check or start
with a process still to start is under way when `StopStreamers` returns, no watchdog takes a tick
after that, and no sleep that follows an exit lasts beyond the five seconds. -/
theorem no_start_while_stopped {n : ℕ} {es : List (GoEvent StreamerInput)}
    {e : GoEvent StreamerInput} {p p' : GoPool Streamers Routine}
    (hclean : (streamers E).machine.Along StopsClean (streamersAtRest n) es)
    (hrun : (streamers E).machine.run (streamersAtRest n) es = some p)
    (hstopped : p.memory.stopped = true) (hstep : (streamers E).machine.step p e = some p') :
    p'.memory.started = p.memory.started := by
  obtain ⟨r, before, left, after, hm⟩ := Goroutines.moves_of_step hstep
  have hquiet := quiet_of_stopped hclean hrun hstopped r hm.mem
  exact (streamerExec_of_quiet hquiet hm.exec).1

end

/-! ## Two runs -/

/-- One camera, and no memory that is known. -/
def oneCamera : Config :=
  { (Config.codec toString).zero with
    auth.uuid := "drone-7", camera.enabled := true, camera.streams := [initialStream "cam0" 0] }

def plainBoard : StreamerEnv := ⟨.exact, 0, false⟩

/-- A step of a goroutine at a time in milliseconds. -/
def stepAt (ms routine : ℕ) (input : StreamerInput) : GoEvent StreamerInput :=
  ⟨ms * 1000000, routine, input⟩

/-- A start of one camera. After it the pool holds the caller, the watchdog, the goroutine that
waits for the process, and the process. -/
def startOne : List (GoEvent StreamerInput) :=
  [stepAt 0 0 (.call (.startStreamers (some oneCamera))), stepAt 0 0 (.result true),
    stepAt 0 0 .go, stepAt 0 0 .go, stepAt 0 0 .go, stepAt 0 0 .go, stepAt 0 0 (.result true),
    stepAt 500 0 .go, stepAt 600 0 (.scan fun _ ↦ true), stepAt 600 0 (.result true),
    stepAt 600 0 .go, stepAt 600 0 .go, stepAt 600 0 .go]

/-- The camera is stopped after 20 s, and the sleep that follows ends within the five seconds. -/
def stopOne : List (GoEvent StreamerInput) :=
  [stepAt 20000 0 (.call .stopStreamers), stepAt 20000 0 .go, stepAt 20000 0 .go,
    stepAt 20000 0 .go, stepAt 20000 0 .go, stepAt 20100 3 .go, stepAt 20100 0 .go,
    stepAt 20100 0 .go, stepAt 20100 0 (.result true), stepAt 20100 2 (.result true),
    stepAt 20100 2 .go, stepAt 20600 0 .go]

theorem no_start_while_stopped_held :
    ∃ p p', (streamers plainBoard).machine.run (streamersAtRest 1) (startOne ++ stopOne) = some p ∧
      p.memory.stopped = true ∧
      (streamers plainBoard).machine.step p (stepAt 22200 2 .go) = some p' ∧
      p'.memory.started = p.memory.started := by
  have hclean : (streamers plainBoard).machine.Along StopsClean (streamersAtRest 1)
      (startOne ++ stopOne) := by
    decide
  obtain ⟨p, p', hrun, hstopped, hstep⟩ : ∃ p p',
      (streamers plainBoard).machine.run (streamersAtRest 1) (startOne ++ stopOne) = some p ∧
      p.memory.stopped = true ∧
      (streamers plainBoard).machine.step p (stepAt 22200 2 .go) = some p' := ⟨_, _, rfl, rfl, rfl⟩
  exact ⟨p, p', hrun, hstopped, hstep, no_start_while_stopped hclean hrun hstopped hstep⟩

/-- The process exits after 10 s and its camera is to be restarted. -/
def exitOne : List (GoEvent StreamerInput) :=
  [stepAt 10000 3 .go, stepAt 10000 2 (.result true), stepAt 10000 2 .go, stepAt 12000 2 .go,
    stepAt 12000 2 .go, stepAt 12000 2 .go, stepAt 12000 2 .go, stepAt 12000 2 .go]

/-- `StopStreamers` is called while that restart waits for its 800 ms. -/
def stopAmidRestart : List (GoEvent StreamerInput) :=
  [stepAt 12100 0 (.call .stopStreamers), stepAt 12100 0 .go, stepAt 12100 0 .go,
    stepAt 12100 0 .go, stepAt 12100 0 .go, stepAt 12100 0 (.result true), stepAt 12600 0 .go]

/-- `StopStreamers` has returned, and the restart starts the camera again. -/
theorem start_while_stopped :
    ∃ p p', (streamers plainBoard).machine.run (streamersAtRest 1)
        (startOne ++ exitOne ++ stopAmidRestart) = some p ∧
      p.memory.stopped = true ∧
      (streamers plainBoard).machine.step p (stepAt 12800 2 (.result true)) = some p' ∧
      p.memory.started = 1 ∧ p'.memory.started = 2 :=
  ⟨_, _, rfl, rfl, rfl, rfl, rfl⟩

end DroneBridge
