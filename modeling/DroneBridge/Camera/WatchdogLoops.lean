import DroneBridge.Camera.Watchdog

/-!
# The loops of the watchdog

A loop is stopped by closing the channel that was made for it. But the loop keeps no channel: at
each turn its `select` reads the variable, and the next start puts another channel there. A loop
that is busy with a health check while the watchdog is stopped and started again then waits at the
new channel and runs on, beside the loop that was started. Nor does a closed channel come first
where a tick is due as well.

So a stopped loop ends where it has read its channel before the next one is made, and no tick is due
until then. It is not stuck, each of its steps brings it closer to its end, and none of them begins
a health check; and of the loops that are not stopped there is at most one (`stopped_loops_end`).
-/

namespace DroneBridge

/-! ## How far a loop is from its end -/

def RestartAt.rank : RestartAt → ℕ
  | called _ => 5
  | note _ => 4
  | stop _ => 3
  | sleep .. => 2
  | track _ => 1

/-- A bound for the steps that a loop can take without a tick, once it has read the
configuration. -/
def LoopAt.rank : LoopAt → ℕ
  | select _ | runStreamHealthCheck => 1
  | top => 2
  | streams _ rest => 3 + 7 * rest.length
  | stats _ _ rest => 9 + 7 * rest.length
  | restart _ rest point => 3 + 7 * rest.length + point.rank

/-- A step in a loop on the way to its end, without another health check. -/
def LoopAt.Closer (point point' : LoopAt) : Prop :=
  point' ≠ .runStreamHealthCheck ∧ (point = .runStreamHealthCheck ∨ point'.rank < point.rank)

def LoopAt.isSelect : LoopAt → Bool
  | select _ => true
  | _ => false

/-- The loop can go on from some time, and no step but the timer takes it back or into a health
check. -/
structure Ending (E : StreamerEnv) (s : Streamers) (own : ℕ) (ticker : Ticker) (point : LoopAt) :
    Prop where
  moves : ∃ wake, ∀ now, wake ≤ now → ∃ input, input ≠ .fire ∧
    (streamerExec E now s (.watchdog own ticker point) input).isSome = true
  lowers : ∀ now input s' rs, input ≠ .fire →
    streamerExec E now s (.watchdog own ticker point) input = some (s', rs) →
    ∀ own' ticker' point', .watchdog own' ticker' point' ∈ rs →
      point.Closer point'

/-! ## Starts and stops -/

def CallerAt.stopsWatchdog : CallerAt → StreamerInput → Bool
  | stop _ .watchdog, .go => true
  | idle, .call .stopStreamWatchdog => true
  | _, _ => false

def CallerAt.startsWatchdog : CallerAt → StreamerInput → Bool
  | startStreamWatchdog _, .go => true
  | idle, .call (.startStreamWatchdog _) => true
  | _, _ => false

def Routine.stopsWatchdog : Routine → StreamerInput → Bool
  | caller point, input => point.stopsWatchdog input
  | _, _ => false

def Routine.startsWatchdog : Routine → StreamerInput → Bool
  | caller point, input => point.startsWatchdog input
  | _, _ => false

/-- The channel of the loop whose ticker fires. -/
def Routine.fires : Routine → StreamerInput → Option ℕ
  | watchdog own _ _, .fire => some own
  | _, _ => none

/-- A tick is due in the loop of a channel. -/
def Routine.isDue (channel : ℕ) : Routine → Bool
  | watchdog own ticker _ => own = channel && ticker.pending
  | _ => false

/-- A loop that has not read its channel since its last turn. -/
def Routine.isAway : Routine → Bool
  | watchdog _ _ point => !point.isSelect
  | _ => false

/-- A loop that has not been stopped. -/
def Routine.isOpenLoop (s : Streamers) : Routine → Bool
  | watchdog own _ _ => own ∉ s.closed
  | _ => false

/-- The ticker of a stopped loop does not fire, a stop finds no tick due, and a start that makes a
channel finds every loop at its `select`. -/
def EndsLoops (p : GoPool Streamers Routine) (e : GoEvent StreamerInput) : Prop :=
  ∀ r ∈ p.routines[e.routine]?,
    (∀ own ∈ r.fires e.input, own ∉ p.memory.closed) ∧
    (r.stopsWatchdog e.input = true →
      ∀ u ∈ p.routines, u.isDue p.memory.watchdogStop = false) ∧
    (r.startsWatchdog e.input = true → p.memory.watchdogRunning = false →
      ∀ u ∈ p.routines, u.isAway = false)

instance (p : GoPool Streamers Routine) (e : GoEvent StreamerInput) : Decidable (EndsLoops p e) :=
  inferInstanceAs (Decidable (∀ r ∈ p.routines[e.routine]?, _ ∧ _ ∧ _))

section

variable {E : StreamerEnv} {now : ℕ} {s s' : Streamers} {rs : List Routine} {r : Routine}
  {input : StreamerInput} {own : ℕ} {ticker : Ticker} {point : LoopAt}

/-! ## What a step does to the channels -/

/-- The variables by which loops are started and stopped. -/
def Streamers.channels (s : Streamers) : ℕ × List ℕ × Bool :=
  (s.watchdogStop, s.closed, s.watchdogRunning)

def Routine.isLoop : Routine → Bool
  | watchdog .. => true
  | _ => false

theorem restartOneStream_channels {cfg : Config} {point : RestartAt} {point' : Option RestartAt}
    (h : s.restartOneStream now cfg point input = some (s', point', rs)) :
    s'.channels = s.channels ∧ ∀ u ∈ rs, u.isLoop = false := by
  revert h
  fun_cases s.restartOneStream now cfg point input <;> intro h <;> cases h
  all_goals simp [Streamers.channels, Routine.isLoop, Streamers.noteRestart,
    Streamers.stopStreamerForCamera, Streamers.startProcess, Streamers.trackProcess]

inductive LoopMoves (s : Streamers) (ticker : Ticker) (point : LoopAt) :
    StreamerInput → Ticker → LoopAt → Prop
  | fire (ticker' : Ticker) : LoopMoves s ticker point .fire ticker' point
  | tick (hselect : point.isSelect = true) (hdue : ticker.pending = true) :
      LoopMoves s ticker point .tick { ticker with pending := false } .runStreamHealthCheck
  | on (input : StreamerInput) {point' : LoopAt} (haway : point.isSelect = false)
      (hcloser : point.Closer point')
      (hread : ∀ channel, point' = .select channel → channel = s.watchdogStop) :
      LoopMoves s ticker point input ticker point'

/-- Within `restartOneStream` a loop goes on to the end of it. -/
theorem restartOneStream_rank {cfg : Config} {point point' : RestartAt}
    (h : s.restartOneStream now cfg point input = some (s', some point', rs)) :
    point'.rank < point.rank := by
  revert h
  fun_cases s.restartOneStream now cfg point input <;> intro h <;> cases h
  all_goals simp [RestartAt.rank]

/-- What a loop leaves: nothing, or itself at another point with goroutines that are no loops. -/
def LoopLeaves (s : Streamers) (own : ℕ) (ticker : Ticker) (point : LoopAt) (input : StreamerInput)
    (rs : List Routine) : Prop :=
  rs = [] ∨ ∃ ticker' point' more, rs = .watchdog own ticker' point' :: more ∧
    (∀ u ∈ more, u.isLoop = false) ∧ LoopMoves s ticker point input ticker' point'

theorem LoopMoves.leaves {ticker' : Ticker} {point' : LoopAt}
    (h : LoopMoves s ticker point input ticker' point') :
    LoopLeaves s own ticker point input [.watchdog own ticker' point'] :=
  .inr ⟨ticker', point', [], rfl, List.forall_mem_nil _, h⟩

theorem restart_leaves {cfg : Config} {rest : List CameraStreamConfig} {point : RestartAt}
    {point' : Option RestartAt} (h : s.restartOneStream now cfg point input = some (s', point', rs))
    {next : LoopAt} (hnext : next = point'.elim (.streams cfg rest) (.restart cfg rest)) :
    LoopLeaves s own ticker (.restart cfg rest point) input (.watchdog own ticker next :: rs) := by
  subst hnext
  refine .inr ⟨_, _, rs, rfl, (restartOneStream_channels h).2, .on input rfl ?_ ?_⟩
  · cases point' with
    | none =>
      have hpos : 0 < point.rank := by cases point <;> exact Nat.succ_pos _
      exact ⟨LoopAt.noConfusion, .inr (Nat.lt_add_of_pos_right hpos)⟩
    | some point' =>
      exact ⟨LoopAt.noConfusion, .inr (Nat.add_lt_add_left (restartOneStream_rank h) _)⟩
  · cases point' <;> simp

/-- A step of a loop keeps the channels. It ends the loop or takes it to another point. -/
theorem streamWatchdogLoop_cases
    (h : streamWatchdogLoop now s own ticker point input = some (s', rs)) :
    s'.channels = s.channels ∧ LoopLeaves s own ticker point input rs := by
  revert h
  fun_cases streamWatchdogLoop now s own ticker point input <;> intro h
  case case16 =>
    obtain ⟨⟨s₁, point', more⟩, hrestart, heq⟩ := Option.map_eq_some_iff.mp h
    cases heq
    refine ⟨(restartOneStream_channels hrestart).1, restart_leaves hrestart ?_⟩
    cases point' <;> rfl
  all_goals cases h
  case case1 => exact ⟨rfl, (LoopMoves.fire _).leaves⟩
  case case3 =>
    exact ⟨rfl, LoopMoves.leaves (.on _ rfl ⟨LoopAt.noConfusion, .inr Nat.one_lt_two⟩
      fun _ h ↦ (LoopAt.select.inj h).symm)⟩
  case case4 => exact ⟨rfl, .inl rfl⟩
  case case6 hdue => exact ⟨rfl, (LoopMoves.tick rfl hdue).leaves⟩
  case case8 | case9 | case10 =>
    exact ⟨rfl, LoopMoves.leaves (.on _ rfl ⟨LoopAt.noConfusion, .inl rfl⟩ (by simp))⟩
  case case15 =>
    refine ⟨rfl, LoopMoves.leaves (.on _ rfl ?_ (by split <;> simp))⟩
    split
    · exact ⟨LoopAt.noConfusion, .inr (by simp only [LoopAt.rank, RestartAt.rank]; omega)⟩
    · exact ⟨LoopAt.noConfusion, .inr (by simp only [LoopAt.rank]; omega)⟩
  all_goals
    refine ⟨rfl, LoopMoves.leaves (.on _ rfl ⟨LoopAt.noConfusion, .inr ?_⟩ (by simp))⟩
    simp only [LoopAt.rank, RestartAt.rank, List.length_cons]
    omega

theorem stopStreamers_channels (after : AfterStop) {point point' : StopAt}
    (h : stopStreamers now s point input = some (s', point')) : s'.channels = s.channels ∨
      CallerAt.stopsWatchdog (.stop after point) input = true ∧
        s'.channels = s.stopStreamWatchdog.channels := by
  revert h
  fun_cases stopStreamers now s point input <;> intro h <;> cases h
  case case2 => exact .inr ⟨rfl, rfl⟩
  all_goals exact .inl rfl

/-- A step of a caller keeps the channels, or it stops or starts a loop. -/
theorem callStreamers_channels {point : CallerAt}
    (h : callStreamers E now s point input = some (s', rs)) :
    (s'.channels = s.channels ∧ ∀ u ∈ rs, u.isLoop = false) ∨
    (point.stopsWatchdog input = true ∧ s'.channels = s.stopStreamWatchdog.channels ∧
      ∀ u ∈ rs, u.isLoop = false) ∨
    (∃ cfg, point.startsWatchdog input = true ∧
      s'.channels = (s.startStreamWatchdog now cfg).1.channels ∧
      rs = .caller .idle :: (s.startStreamWatchdog now cfg).2) := by
  by_cases hstop : ∃ after point', point = .stop after point'
  · obtain ⟨after, point, rfl⟩ := hstop
    rcases callStreamers_stop h with ⟨wake, rfl, rfl, rfl⟩ | ⟨next, hstep, rfl⟩
    · exact .inl ⟨by cases after <;> rfl, List.forall_mem_singleton.mpr rfl⟩
    · rcases stopStreamers_channels after hstep with hkept | ⟨hstops, hclosed⟩
      · exact .inl ⟨hkept, List.forall_mem_singleton.mpr rfl⟩
      · exact .inr (.inl ⟨hstops, hclosed, List.forall_mem_singleton.mpr rfl⟩)
  · revert h hstop
    fun_cases callStreamers E now s point input <;> intro h hstop
    all_goals try cases h
    all_goals first
      | exact absurd ⟨_, _, rfl⟩ hstop
      | exact .inl ⟨rfl, by simp [Routine.isLoop]⟩
      | exact .inr (.inl ⟨rfl, rfl, by simp [Routine.isLoop]⟩)
      | exact .inr (.inr ⟨_, rfl, rfl, rfl⟩)

/-- A step of a goroutine that is no loop keeps the channels, or is a stop or a start by a
caller. -/
theorem streamerExec_channels (h : streamerExec E now s r input = some (s', rs))
    (hloop : r.isLoop = false) :
    (s'.channels = s.channels ∧ ∀ u ∈ rs, u.isLoop = false) ∨
    ∃ point, r = .caller point ∧
      (point.stopsWatchdog input = true ∧ s'.channels = s.stopStreamWatchdog.channels ∧
        (∀ u ∈ rs, u.isLoop = false) ∨
      ∃ cfg, point.startsWatchdog input = true ∧
        s'.channels = (s.startStreamWatchdog now cfg).1.channels ∧
        rs = .caller .idle :: (s.startStreamWatchdog now cfg).2) := by
  rcases streamerExec_cases h with ⟨point, rfl, h⟩ | ⟨own, ticker, point, rfl, -⟩ |
    ⟨cfg, point, point', more, rfl, hstep, rfl⟩ | hexit
  · exact (callStreamers_channels h).imp_right fun hcall ↦ ⟨point, rfl, hcall⟩
  · cases hloop
  · obtain ⟨hkept, hmore⟩ := restartOneStream_channels hstep
    refine .inl ⟨hkept, List.forall_mem_append.mpr ⟨?_, hmore⟩⟩
    cases point' with
    | none => exact List.forall_mem_nil _
    | some point' => exact List.forall_mem_singleton.mpr rfl
  · refine .inl ?_
    cases hexit with
    | removes =>
      refine ⟨rfl, fun u hu ↦ ?_⟩
      obtain ⟨cfg, wake, rfl⟩ := eq_exitSleep_of_mem_onStreamerExited hu
      rfl
    | _ => exact ⟨rfl, by simp [Routine.isLoop]⟩

/-! ## The invariant -/

def Routine.isLoopOf (channel : ℕ) : Routine → Bool
  | watchdog own _ _ => own = channel
  | _ => false

/-- What is known of a loop: it reads no other channel than its own. -/
structure LoopOk (s : Streamers) (own : ℕ) (ticker : Ticker) (point : LoopAt) : Prop where
  le : own ≤ s.watchdogStop
  read : ∀ channel, point = .select channel → channel = own
  current : point.isSelect = false → own = s.watchdogStop
  stopped : own ∈ s.closed → ticker.pending = false
  running : own ∉ s.closed → own = s.watchdogStop ∧ s.watchdogRunning = true

structure LoopsOk (p : GoPool Streamers Routine) : Prop where
  closed_le : ∀ channel ∈ p.memory.closed, channel ≤ p.memory.watchdogStop
  loop : ∀ own ticker point, .watchdog own ticker point ∈ p.routines →
    LoopOk p.memory own ticker point
  alone : ∀ channel, p.routines.countP (Routine.isLoopOf channel) ≤ 1

theorem LoopOk.of_channels (h : LoopOk s own ticker point) (hs : s'.channels = s.channels) :
    LoopOk s' own ticker point := by
  obtain ⟨hstop, hclosed, hrunning⟩ : s'.watchdogStop = s.watchdogStop ∧ s'.closed = s.closed ∧
      s'.watchdogRunning = s.watchdogRunning := by
    simpa [Streamers.channels] using hs
  exact ⟨hstop ▸ h.le, h.read, hstop ▸ h.current, hclosed ▸ h.stopped, by
    rw [hstop, hclosed, hrunning]
    exact h.running⟩

/-- A loop that moves stays within what is known of it, if no stopped loop gets a tick. -/
theorem LoopOk.moves (h : LoopOk s own ticker point) {ticker' : Ticker} {point' : LoopAt}
    (hfire : input = .fire → own ∉ s.closed)
    (hmoves : LoopMoves s ticker point input ticker' point') :
    LoopOk s own ticker' point' := by
  cases hmoves with
  | fire => exact ⟨h.le, h.read, h.current, fun hclosed ↦ absurd hclosed (hfire rfl), h.running⟩
  | tick hselect hdue =>
    -- a loop with a tick due is not stopped
    have hopen : own ∉ s.closed := fun hclosed ↦
      Bool.false_ne_true ((h.stopped hclosed).symm.trans hdue)
    exact ⟨h.le, fun _ hpoint ↦ LoopAt.noConfusion hpoint, fun _ ↦ (h.running hopen).1,
      fun _ ↦ rfl, h.running⟩
  | on _ haway hcloser hread =>
    have hcurrent := h.current haway
    exact ⟨h.le, fun channel hpoint ↦ (hread channel hpoint).trans hcurrent.symm,
      fun _ ↦ hcurrent, h.stopped, h.running⟩

theorem LoopOk.stop (h : LoopOk s own ticker point)
    (hdue : own = s.watchdogStop → ticker.pending = false) :
    LoopOk s.stopStreamWatchdog own ticker point := by
  rw [Streamers.stopStreamWatchdog]
  split
  · refine ⟨h.le, h.read, h.current, fun hclosed ↦ ?_, fun hopen ↦ ?_⟩
    · exact (List.mem_cons.mp hclosed).elim hdue h.stopped
    · obtain ⟨hne, hopen⟩ := not_or.mp (mt List.mem_cons.mpr hopen)
      exact absurd (h.running hopen).1 hne
  · exact h

theorem LoopOk.start {cfg : Config} (h : LoopOk s own ticker point)
    (haway : s.watchdogRunning = false → point.isSelect = true) :
    LoopOk (s.startStreamWatchdog now cfg).1 own ticker point := by
  fun_cases s.startStreamWatchdog now cfg
  case case1 | case3 => exact h.of_channels rfl
  case case2 hrunning =>
    have hselect := haway (Bool.eq_false_of_not_eq_true hrunning)
    refine ⟨Nat.le_succ_of_le h.le, h.read, fun hnot ↦ ?_, h.stopped, fun hopen ↦ ?_⟩
    · exact absurd (hselect.symm.trans hnot) (by decide)
    · exact absurd (h.running hopen).2 hrunning

theorem LoopOk.of_start {cfg : Config}
    (h : .watchdog own ticker point ∈ (s.startStreamWatchdog now cfg).2) :
    own = s.watchdogStop + 1 ∧ LoopOk (s.startStreamWatchdog now cfg).1 own ticker point := by
  revert h
  fun_cases s.startStreamWatchdog now cfg <;> intro h
  case case1 | case3 => cases h
  case case2 =>
    cases List.mem_singleton.mp h
    exact ⟨rfl, le_rfl, fun _ hpoint ↦ LoopAt.noConfusion hpoint, fun _ ↦ rfl, fun _ ↦ rfl,
      fun _ ↦ ⟨rfl, rfl⟩⟩

/-! ### One step -/

theorem isLoop_of_isLoopOf {channel : ℕ} (h : r.isLoopOf channel = true) : r.isLoop = true := by
  cases r with
  | watchdog => rfl
  | _ => cases h

theorem countP_isLoopOf_eq_zero {channel : ℕ} (h : ∀ u ∈ rs, u.isLoop = false) :
    rs.countP (Routine.isLoopOf channel) = 0 := by
  refine List.countP_eq_zero.mpr fun u hu hof ↦ ?_
  exact Bool.false_ne_true ((h u hu).symm.trans (isLoop_of_isLoopOf hof))

section

variable {p p' : GoPool Streamers Routine} {e : GoEvent StreamerInput}
  {before left after : List Routine}

/-- Where a step leaves the other loops as they are known, and its own too. -/
theorem LoopsOk.of_moves (h : LoopsOk p)
    (hm : (streamers E).Moves p e p' r before left after)
    (hclosed : ∀ channel ∈ p'.memory.closed, channel ≤ p'.memory.watchdogStop)
    (hothers : ∀ own ticker point, .watchdog own ticker point ∈ p.routines →
      LoopOk p.memory own ticker point → LoopOk p'.memory own ticker point)
    (hleft : ∀ own ticker point, .watchdog own ticker point ∈ left →
      LoopOk p'.memory own ticker point)
    (hcount : ∀ channel, left.countP (Routine.isLoopOf channel) ≤
        [r].countP (Routine.isLoopOf channel) ∨
      p.routines.countP (Routine.isLoopOf channel) = 0 ∧
        left.countP (Routine.isLoopOf channel) ≤ 1) : LoopsOk p' := by
  refine ⟨hclosed, fun own ticker point hmem ↦ ?_, fun channel ↦ ?_⟩
  · rcases hm.mem_routines'.mp hmem with hmem | hmem
    · exact hleft own ticker point hmem
    · have hp := hm.mem_of_mem_others hmem
      exact hothers own ticker point hp (h.loop own ticker point hp)
  · have halone := h.alone channel
    rw [hm.countP_routines']
    rw [hm.countP_routines] at halone
    rcases hcount channel with hle | ⟨hzero, hle⟩
    · omega
    · rw [hm.countP_routines] at hzero
      omega

theorem closed_le_of_channels (hs : s'.channels = s.channels)
    (h : ∀ channel ∈ s.closed, channel ≤ s.watchdogStop) :
    ∀ channel ∈ s'.closed, channel ≤ s'.watchdogStop := by
  obtain ⟨hstop, hclosed, -⟩ : s'.watchdogStop = s.watchdogStop ∧ s'.closed = s.closed ∧
      s'.watchdogRunning = s.watchdogRunning := by
    simpa [Streamers.channels] using hs
  rwa [hstop, hclosed]

theorem not_mem_of_isLoop_eq_false (h : ∀ u ∈ rs, u.isLoop = false) :
    .watchdog own ticker point ∉ rs := fun hmem ↦ Bool.false_ne_true (h _ hmem).symm

theorem LoopsOk.step_loop (h : LoopsOk p)
    (hm : (streamers E).Moves p e p' (.watchdog own ticker point) before left after)
    (hfire : e.input = .fire → own ∉ p.memory.closed) : LoopsOk p' := by
  obtain ⟨hs, hleaves⟩ := streamWatchdogLoop_cases hm.exec
  have hok := h.loop own ticker point hm.mem
  refine h.of_moves hm (closed_le_of_channels hs h.closed_le) (fun _ _ _ _ hu ↦ hu.of_channels hs)
    ?_ fun channel ↦ .inl ?_
  · rcases hleaves with rfl | ⟨ticker', point', more, rfl, hmore, hmoves⟩
    · exact fun _ _ _ hmem ↦ absurd hmem List.not_mem_nil
    · intro own' ticker₁ point₁ hmem
      rcases List.mem_cons.mp hmem with heq | hmem
      · cases heq
        exact (hok.moves hfire hmoves).of_channels hs
      · exact absurd hmem (not_mem_of_isLoop_eq_false hmore)
  · rcases hleaves with rfl | ⟨ticker', point', more, rfl, hmore, -⟩
    · exact Nat.zero_le _
    · rw [List.countP_cons, countP_isLoopOf_eq_zero hmore, List.countP_singleton, Nat.zero_add]
      rfl

theorem LoopsOk.step_kept (h : LoopsOk p) (hm : (streamers E).Moves p e p' r before left after)
    (hs : p'.memory.channels = p.memory.channels) (hleft : ∀ u ∈ left, u.isLoop = false) :
    LoopsOk p' := by
  refine h.of_moves hm (closed_le_of_channels hs h.closed_le) (fun _ _ _ _ hu ↦ hu.of_channels hs)
    (fun _ _ _ hmem ↦ absurd hmem (not_mem_of_isLoop_eq_false hleft)) fun channel ↦ .inl ?_
  rw [countP_isLoopOf_eq_zero hleft]
  exact Nat.zero_le _

theorem LoopsOk.step_stop (h : LoopsOk p) (hm : (streamers E).Moves p e p' r before left after)
    (hs : p'.memory.channels = p.memory.stopStreamWatchdog.channels)
    (hleft : ∀ u ∈ left, u.isLoop = false)
    (hdue : ∀ r ∈ p.routines, r.isDue p.memory.watchdogStop = false) : LoopsOk p' := by
  have hclosed : ∀ channel ∈ p.memory.stopStreamWatchdog.closed,
      channel ≤ p.memory.stopStreamWatchdog.watchdogStop := by
    rw [Streamers.stopStreamWatchdog]
    split
    · exact List.forall_mem_cons.mpr ⟨le_rfl, h.closed_le⟩
    · exact h.closed_le
  refine h.of_moves hm (closed_le_of_channels hs hclosed) ?_
    (fun _ _ _ hmem ↦ absurd hmem (not_mem_of_isLoop_eq_false hleft)) fun channel ↦ .inl ?_
  · intro own ticker point hmem hok
    refine (hok.stop fun heq ↦ ?_).of_channels hs
    simpa [Routine.isDue, heq] using hdue _ hmem
  · rw [countP_isLoopOf_eq_zero hleft]
    exact Nat.zero_le _

theorem LoopsOk.step_start {cfg : Config} (h : LoopsOk p)
    (hm : (streamers E).Moves p e p' r before left after)
    (hs : p'.memory.channels = (p.memory.startStreamWatchdog e.now cfg).1.channels)
    (hleft : left = .caller .idle :: (p.memory.startStreamWatchdog e.now cfg).2)
    (haway : p.memory.watchdogRunning = false → ∀ r ∈ p.routines, r.isAway = false) :
    LoopsOk p' := by
  have hclosed : ∀ channel ∈ (p.memory.startStreamWatchdog e.now cfg).1.closed,
      channel ≤ (p.memory.startStreamWatchdog e.now cfg).1.watchdogStop := by
    fun_cases p.memory.startStreamWatchdog e.now cfg
    case case1 | case3 => exact h.closed_le
    case case2 => exact fun channel hc ↦ Nat.le_succ_of_le (h.closed_le channel hc)
  refine h.of_moves hm (closed_le_of_channels hs hclosed) ?_ ?_ fun channel ↦ ?_
  · intro own ticker point hmem hok
    refine (hok.start fun hrunning ↦ ?_).of_channels hs
    simpa [Routine.isAway] using haway hrunning _ hmem
  · intro own ticker point hmem
    rw [hleft, List.mem_cons] at hmem
    exact (LoopOk.of_start (hmem.resolve_left Routine.noConfusion)).2.of_channels hs
  · -- the new channel is beyond those of the loops that there are
    have hcaller : (Routine.caller .idle).isLoopOf channel = false := rfl
    rw [hleft, List.countP_cons_of_neg (by rw [hcaller]; decide)]
    by_cases hchannel : channel = p.memory.watchdogStop + 1
    · refine .inr ⟨List.countP_eq_zero.mpr fun u hu hof ↦ ?_, ?_⟩
      · cases u with
        | watchdog own ticker point =>
          have hle := (h.loop own ticker point hu).le
          have heq : own = channel := by simpa [Routine.isLoopOf] using hof
          omega
        | _ => cases hof
      · fun_cases p.memory.startStreamWatchdog e.now cfg
        case case1 | case3 => exact Nat.zero_le 1
        case case2 => exact List.countP_le_length
    · refine .inl (le_of_eq_of_le (List.countP_eq_zero.mpr fun u hu hof ↦ ?_) (Nat.zero_le _))
      cases u with
      | watchdog own ticker point =>
        have heq : own = channel := by simpa [Routine.isLoopOf] using hof
        exact hchannel (heq ▸ (LoopOk.of_start hu).1)
      | _ => cases hof

theorem LoopsOk.step (h : LoopsOk p) (hclean : EndsLoops p e)
    (hstep : (streamers E).machine.step p e = some p') : LoopsOk p' := by
  obtain ⟨r, before, left, after, hm⟩ := Goroutines.moves_of_step hstep
  obtain ⟨hfires, hstop, hstart⟩ := hclean r hm.at_place
  cases hloop : r.isLoop with
  | true =>
    cases r with
    | watchdog own ticker point =>
      refine h.step_loop hm fun hfire ↦ hfires own ?_
      rw [hfire]
      rfl
    | _ => cases hloop
  | false =>
    rcases streamerExec_channels hm.exec hloop with
      ⟨hs, hleft⟩ | ⟨point, rfl, ⟨hstops, hs, hleft⟩ | ⟨cfg, hstarts, hs, hleft⟩⟩
    · exact h.step_kept hm hs hleft
    · exact h.step_stop hm hs hleft (hstop hstops)
    · exact h.step_start hm hs hleft (hstart hstarts)

theorem loopsOk_streamersAtRest (n : ℕ) : LoopsOk (streamersAtRest n) := by
  have hcaller : ∀ u ∈ (streamersAtRest n).routines, u.isLoop = false := by
    intro u hu
    rw [List.eq_of_mem_replicate hu]
    rfl
  refine ⟨fun _ hc ↦ absurd hc List.not_mem_nil, fun own ticker point hmem ↦ ?_, fun channel ↦ ?_⟩
  · exact absurd hmem (not_mem_of_isLoop_eq_false hcaller)
  · rw [countP_isLoopOf_eq_zero hcaller]
    exact Nat.zero_le 1

/-! ## Stopped loops end -/

theorem restartOneStream_moves (s : Streamers) (cfg : Config) (point : RestartAt) :
    ∃ wake, ∀ now, wake ≤ now → ∃ input, input ≠ .fire ∧
      (s.restartOneStream now cfg point input).isSome = true := by
  cases point with
  | called camID =>
    refine ⟨0, fun now _ ↦ ⟨.go, StreamerInput.noConfusion, ?_⟩⟩
    rw [Streamers.restartOneStream]
    split <;> rfl
  | note camID =>
    refine ⟨0, fun now _ ↦ ⟨.go, StreamerInput.noConfusion, ?_⟩⟩
    rw [Streamers.restartOneStream]
    split <;> rfl
  | stop stream => exact ⟨0, fun now _ ↦ ⟨.go, StreamerInput.noConfusion, rfl⟩⟩
  | sleep wake stream =>
    refine ⟨wake, fun now hnow ↦ ⟨.result false, StreamerInput.noConfusion, ?_⟩⟩
    rw [Streamers.restartOneStream, if_pos hnow]
    rfl
  | track proc => exact ⟨0, fun now _ ↦ ⟨.go, StreamerInput.noConfusion, rfl⟩⟩

theorem streamWatchdogLoop_moves (s : Streamers) (own : ℕ) (ticker : Ticker) {point : LoopAt}
    (hselect : ∀ channel, point = .select channel → channel ∈ s.closed) :
    ∃ wake, ∀ now, wake ≤ now → ∃ input, input ≠ .fire ∧
      (streamWatchdogLoop now s own ticker point input).isSome = true := by
  cases point with
  | top => exact ⟨0, fun now _ ↦ ⟨.go, StreamerInput.noConfusion, rfl⟩⟩
  | select channel =>
    refine ⟨0, fun now _ ↦ ⟨.close, StreamerInput.noConfusion, ?_⟩⟩
    rw [streamWatchdogLoop, if_pos (hselect channel rfl)]
    rfl
  | runStreamHealthCheck =>
    refine ⟨0, fun now _ ↦ ⟨.go, StreamerInput.noConfusion, ?_⟩⟩
    rw [streamWatchdogLoop]
    split
    · rfl
    · split <;> rfl
  | streams cfg rest =>
    cases rest with
    | nil => exact ⟨0, fun now _ ↦ ⟨.go, StreamerInput.noConfusion, rfl⟩⟩
    | cons stream rest =>
      refine ⟨0, fun now _ ↦ ⟨.scan fun _ ↦ true, StreamerInput.noConfusion, ?_⟩⟩
      rw [streamWatchdogLoop]
      split
      · rfl
      · split <;> rfl
  | stats cfg stream rest => exact ⟨0, fun now _ ↦ ⟨.stats none, StreamerInput.noConfusion, rfl⟩⟩
  | restart cfg rest point =>
    obtain ⟨wake, hmoves⟩ := restartOneStream_moves s cfg point
    refine ⟨wake, fun now hnow ↦ ?_⟩
    obtain ⟨input, hinput, hsome⟩ := hmoves now hnow
    refine ⟨input, hinput, ?_⟩
    rw [streamWatchdogLoop, Option.isSome_map]
    · exact hsome
    · exact hinput

theorem LoopOk.ending (h : LoopOk s own ticker point) (hclosed : own ∈ s.closed) :
    Ending E s own ticker point := by
  refine ⟨streamWatchdogLoop_moves s own ticker fun channel hpoint ↦ ?_, ?_⟩
  · exact (h.read channel hpoint).symm ▸ hclosed
  · intro now input s' rs hfire hexec own' ticker' point' hmem
    rcases (streamWatchdogLoop_cases hexec).2 with rfl | ⟨ticker₁, point₁, more, rfl, hmore, hmoves⟩
    · cases hmem
    · rcases List.mem_cons.mp hmem with heq | hmem
      · cases heq
        cases hmoves with
        | fire => exact absurd rfl hfire
        | tick _ hdue => exact absurd ((h.stopped hclosed).symm.trans hdue) Bool.false_ne_true
        | on _ _ hcloser => exact hcloser
      · exact absurd hmem (not_mem_of_isLoop_eq_false hmore)

/-- **A stopped loop ends, and at most one is left**, if a stop finds no tick due, the ticker of a
stopped loop does not fire, and a channel is made only when every loop is at its `select`. -/
theorem stopped_loops_end {n : ℕ} {es : List (GoEvent StreamerInput)}
    (hclean : (streamers E).machine.Along EndsLoops (streamersAtRest n) es)
    (hrun : (streamers E).machine.run (streamersAtRest n) es = some p) :
    (∀ own ticker point, .watchdog own ticker point ∈ p.routines → own ∈ p.memory.closed →
      Ending E p.memory own ticker point) ∧
    p.routines.countP (Routine.isOpenLoop p.memory) ≤ 1 := by
  have hok : LoopsOk p := by
    refine Machine.invariant_along (fun p e p' h hclean hstep ↦ ?_) (loopsOk_streamersAtRest n)
      hclean hrun
    exact h.step hclean hstep
  refine ⟨fun own ticker point hmem hclosed ↦ (hok.loop own ticker point hmem).ending hclosed, ?_⟩
  refine le_trans (List.countP_mono_left fun u hu hopen ↦ ?_) (hok.alone p.memory.watchdogStop)
  cases u with
  | watchdog own ticker point =>
    have hnot : own ∉ p.memory.closed := by simpa [Routine.isOpenLoop] using hopen
    simpa [Routine.isLoopOf] using ((hok.loop own ticker point hu).running hnot).1
  | _ => cases hopen

end

end

/-! ## Two runs -/

/-- The camera is enabled, and there is no stream. -/
def noStreams : Config := { oneCamera with camera.streams := [] }

/-- The caller is the first in the pool, and the loop, which waits, the second. -/
def startLoop : List (GoEvent StreamerInput) :=
  [stepAt 0 0 (.call (.startStreamWatchdog (some noStreams))), stepAt 0 1 .go]

/-- The loop is stopped while it waits. -/
theorem stopped_loops_end_waiting :
    ∃ p, (streamers plainBoard).machine.run (streamersAtRest 1)
        (startLoop ++ [stepAt 1000 0 (.call .stopStreamWatchdog)]) = some p ∧
      Ending plainBoard p.memory 1 ⟨12000000000, false⟩ (.select 1) ∧
      p.routines.countP (Routine.isOpenLoop p.memory) ≤ 1 := by
  have hclean : (streamers plainBoard).machine.Along EndsLoops (streamersAtRest 1)
      (startLoop ++ [stepAt 1000 0 (.call .stopStreamWatchdog)]) := by
    decide
  obtain ⟨p, hrun, hmem, hclosed⟩ : ∃ p, (streamers plainBoard).machine.run (streamersAtRest 1)
        (startLoop ++ [stepAt 1000 0 (.call .stopStreamWatchdog)]) = some p ∧
      p.routines[1]? = some (.watchdog 1 ⟨12000000000, false⟩ (.select 1)) ∧
      1 ∈ p.memory.closed := ⟨_, rfl, rfl, List.mem_singleton.mpr rfl⟩
  obtain ⟨hends, hcount⟩ := stopped_loops_end hclean hrun
  exact ⟨p, hrun, hends _ _ _ (List.mem_of_getElem? hmem) hclosed, hcount⟩

/-- A health check is under way while the watchdog is stopped and started again. -/
def restartAmidCheck : List (GoEvent StreamerInput) :=
  [stepAt 12000 1 .fire, stepAt 12000 1 .tick, stepAt 12000 0 (.call .stopStreamWatchdog),
    stepAt 12000 0 (.call (.startStreamWatchdog (some noStreams))), stepAt 12000 2 .go,
    stepAt 12000 2 .go, stepAt 12000 2 .go, stepAt 12000 1 .go, stepAt 24000 2 .fire]

/-- The stopped loop waits at the channel of the new one and begins another health check. Neither of
the two is at a closed channel. -/
theorem stopped_loop_goes_on :
    ∃ p p', (streamers plainBoard).machine.run (streamersAtRest 1)
        (startLoop ++ restartAmidCheck) = some p ∧
      1 ∈ p.memory.closed ∧ 2 ∉ p.memory.closed ∧
      p.routines[1]? = some (.watchdog 2 ⟨24000000000, false⟩ (.select 2)) ∧
      p.routines[2]? = some (.watchdog 1 ⟨36000000000, true⟩ (.select 2)) ∧
      (streamers plainBoard).machine.step p (stepAt 24000 2 .tick) = some p' ∧
      p'.routines[2]? = some (.watchdog 1 ⟨36000000000, false⟩ .runStreamHealthCheck) :=
  ⟨_, _, rfl, List.mem_singleton.mpr rfl, by decide, rfl, rfl, rfl, rfl⟩

end DroneBridge
