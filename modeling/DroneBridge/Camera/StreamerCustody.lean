import DroneBridge.Camera.Watchdog
import DroneBridge.Lib.Custody

/-!
# Who holds which camera

A goroutine of `restartOneStream` holds its camera from the moment it has passed the cooldown until
its process is tracked. A `StopStreamers` holds every camera from the moment it takes the tracked
processes until it has killed them, and a `StartStreamers` each of them until the stream is started.
A process that is alive is tracked, or in the hands of the goroutine that has just started it or has
taken it to kill it.

`streamerExec_stepOk` says that a step keeps this in order, so that no camera comes to have two
processes, if the cooldown is passed for a free camera only and the tracked processes are taken when
all are free. Nothing in the sources sees to that.
-/

namespace DroneBridge

/-! ## The cameras that are held -/

/-- The cameras that a goroutine is in the middle of stopping or starting. -/
inductive Held
  | all
  | only (cameras : List Int64)
  deriving DecidableEq, Repr

def Held.has : Held → Int64 → Bool
  | all, _ => true
  | only cameras, camID => camID ∈ cameras

/-- A restart that has passed the cooldown holds its camera. -/
def RestartAt.held : RestartAt → Held
  | called _ => .only []
  | note camID => .only [camID]
  | stop stream | sleep _ stream => .only [stream.cameraId]
  | track proc => .only [proc.cameraID]

def CallerAt.held : CallerAt → Held
  | stop _ (.kill _) | stop _ (.wait ..) | stop (.start _) .pkill | stop (.start _) (.sleep _)
  | scan _ => .all
  | launch _ _ _ rest | stagger _ _ rest _ => .only (rest.map (·.cameraId))
  | track _ _ rest proc => .only (proc.cameraID :: rest.map (·.cameraId))
  | _ => .only []

def Routine.held : Routine → Held
  | caller point => point.held
  | watchdog _ _ (.restart _ _ point) => point.held
  | exitRestart _ point => point.held
  | _ => .only []

/-- The camera for which the goroutine looks at the cooldown next. -/
def RestartAt.calls : RestartAt → Option Int64
  | called camID => some camID
  | _ => none

def Routine.calls : Routine → Option Int64
  | watchdog _ _ (.restart _ _ point) => point.calls
  | exitRestart _ point => point.calls
  | _ => none

/-- The camera whose restart the goroutine notes next. -/
def RestartAt.notes : RestartAt → Option Int64
  | note camID => some camID
  | _ => none

def Routine.notes : Routine → Option Int64
  | watchdog _ _ (.restart _ _ point) => point.notes
  | exitRestart _ point => point.notes
  | _ => none

/-! ## Processes that are not tracked -/

def RestartAt.owned : RestartAt → List StreamerProc
  | track proc => [proc]
  | _ => []

def CallerAt.owned : CallerAt → List StreamerProc
  | stop _ (.kill procs) | stop _ (.wait _ procs) => procs
  | track _ _ _ proc => [proc]
  | _ => []

def Routine.owned : Routine → List StreamerProc
  | caller point => point.owned
  | watchdog _ _ (.restart _ _ point) => point.owned
  | exitRestart _ point => point.owned
  | _ => []

/-- What was left of the stream has been killed. -/
def RestartAt.drained : RestartAt → Int64 → Prop
  | sleep _ stream, camID => stream.cameraId = camID
  | track proc, camID => proc.cameraID = camID
  | _, _ => False

def Routine.drained : Routine → Int64 → Prop
  | caller point, camID => point.held.has camID = true
  | watchdog _ _ (.restart _ _ point), camID => point.drained camID
  | exitRestart _ point, camID => point.drained camID
  | _, _ => False

/-- A process that was started and neither killed nor has exited. -/
def Streamers.Alive (s : Streamers) (proc : StreamerProc) : Prop :=
  proc ∈ s.launched ∧ proc.cmd ∉ s.killed ∧ proc.cmd ∉ s.exited

instance (s : Streamers) (proc : StreamerProc) : Decidable (s.Alive proc) :=
  inferInstanceAs (Decidable (_ ∧ _))

theorem RestartAt.held_of_owned (point : RestartAt) :
    ∀ proc ∈ point.owned, point.held.has proc.cameraID = true := by
  cases point with
  | track proc => simp [owned, held, Held.has]
  | _ => exact fun _ h ↦ absurd h List.not_mem_nil

theorem RestartAt.held_of_drained {point : RestartAt} {camID : Int64}
    (h : point.drained camID) : point.held.has camID = true := by
  cases point with
  | sleep wake stream => simpa [drained, held, Held.has] using h.symm
  | track proc => simpa [drained, held, Held.has] using h.symm
  | _ => exact h.elim

theorem CallerAt.held_of_owned (point : CallerAt) :
    ∀ proc ∈ point.owned, point.held.has proc.cameraID = true := by
  cases point with
  | stop after point =>
    cases point with
    | kill | wait => exact fun _ _ ↦ rfl
    | _ => exact fun _ h ↦ absurd h List.not_mem_nil
  | track cfg multiCam rest proc => simp [owned, held, Held.has]
  | _ => exact fun _ h ↦ absurd h List.not_mem_nil

theorem Routine.held_of_owned (r : Routine) :
    ∀ proc ∈ r.owned, r.held.has proc.cameraID = true := by
  cases r with
  | caller point => exact point.held_of_owned
  | watchdog own ticker point =>
    cases point with
    | restart cfg rest point => exact point.held_of_owned
    | _ => exact fun _ h ↦ absurd h List.not_mem_nil
  | exitRestart cfg point => exact point.held_of_owned
  | _ => exact fun _ h ↦ absurd h List.not_mem_nil

theorem Routine.held_of_drained {r : Routine} {camID : Int64} (h : r.drained camID) :
    r.held.has camID = true := by
  cases r with
  | caller point => exact h
  | watchdog own ticker point =>
    cases point with
    | restart cfg rest point => exact RestartAt.held_of_drained h
    | _ => exact h.elim
  | exitRestart cfg point => exact RestartAt.held_of_drained h
  | _ => exact h.elim

theorem RestartAt.held_of_notes {point : RestartAt} {camID : Int64}
    (h : point.notes = some camID) : point.held.has camID = true := by
  cases point with
  | note cam =>
    cases h
    exact decide_eq_true (List.mem_singleton_self _)
  | _ => cases h

theorem Routine.held_of_notes {r : Routine} {camID : Int64} (h : r.notes = some camID) :
    r.held.has camID = true := by
  cases r with
  | watchdog own ticker point =>
    cases point with
    | restart cfg rest point => exact RestartAt.held_of_notes h
    | _ => cases h
  | exitRestart cfg point => exact RestartAt.held_of_notes h
  | _ => cases h

/-- Processes are shared when they are tracked, and kept by their cameras. -/
def streamerCustody : Custody Streamers Routine StreamerProc Int64 where
  alive := Streamers.Alive
  shared := Streamers.streamerProcs
  key := StreamerProc.cameraID
  holds camID r := r.held.has camID
  owned := Routine.owned
  drained camID r := r.drained camID
  holds_of_owned := Routine.held_of_owned
  holds_of_drained _ _ h := Routine.held_of_drained h

section

variable {E : StreamerEnv} {now : ℕ} {s s' : Streamers} {rs : List Routine} {r : Routine}
  {input : StreamerInput} {free : Int64 → Prop}

/-! ## What the steps do to the processes -/

/-- What the processes are and which of them are tracked. -/
def Streamers.processes (s : Streamers) : List StreamerProc × List ℕ × List ℕ × List StreamerProc :=
  (s.launched, s.killed, s.exited, s.streamerProcs)

theorem alive_congr (h : s'.processes = s.processes) {proc : StreamerProc} :
    s'.Alive proc ↔ s.Alive proc := by
  obtain ⟨hlaunched, hkilled, hexited, -⟩ : s'.launched = s.launched ∧ s'.killed = s.killed ∧
      s'.exited = s.exited ∧ s'.streamerProcs = s.streamerProcs := by
    simpa [Streamers.processes] using h
  rw [Streamers.Alive, Streamers.Alive, hlaunched, hkilled, hexited]

theorem streamerProcs_congr (h : s'.processes = s.processes) :
    s'.streamerProcs = s.streamerProcs := by
  simp only [Streamers.processes, Prod.mk.injEq] at h
  exact h.2.2.2

/-- A goroutine that holds no camera. -/
def Routine.idle (r : Routine) : Prop := r.held = .only []

theorem Routine.idle.not_has (h : r.idle) (camID : Int64) : r.held.has camID = false := by
  rw [Routine.idle] at h
  simp [h, Held.has]

theorem Routine.idle.notes (h : r.idle) : r.notes = none := by
  refine Option.eq_none_iff_forall_ne_some.mpr fun camID hcam ↦ ?_
  exact absurd (Routine.held_of_notes hcam) (ne_true_of_eq_false (h.not_has camID))

/-- A step that does nothing to the processes and leaves nobody with a camera. -/
theorem stepOk_of_kept (hs : s'.processes = s.processes) (hr : r.owned = [])
    (hrs : ∀ u ∈ rs, u.idle) : streamerCustody.StepOk s r s' rs free := by
  refine .of_idle (fun q hq ↦ (alive_congr hs).mp hq) (fun q _ hq ↦ ?_)
    fun u hu camID ↦ (hrs u hu).not_has camID
  have hprocs : s'.streamerProcs = s.streamerProcs := streamerProcs_congr hs
  simp only [streamerCustody, hr, List.not_mem_nil, or_false] at hq ⊢
  rwa [hprocs]

/-! ### A restart -/

/-- A goroutine within `restartOneStream`. -/
structure Restarting (wrap : RestartAt → Routine) : Prop where
  held : ∀ point, (wrap point).held = point.held
  owned : ∀ point, (wrap point).owned = point.owned
  drained : ∀ point camID, (wrap point).drained camID ↔ point.drained camID
  calls : ∀ point, (wrap point).calls = point.calls
  notes : ∀ point, (wrap point).notes = point.notes

theorem alive_startProcess {stream : CameraStreamConfig} {proc : StreamerProc}
    (h : (s.startProcess stream).Alive proc) : s.Alive proc ∨ proc = s.nextProcess stream := by
  obtain ⟨hlaunched, hkilled, hexited⟩ := h
  rcases List.mem_append.mp hlaunched with hlaunched | hnew
  · exact .inl ⟨hlaunched, hkilled, hexited⟩
  · exact .inr (List.mem_singleton.mp hnew)

theorem alive_stopStreamerForCamera {camID : Int64} {proc : StreamerProc}
    (h : (s.stopStreamerForCamera camID).Alive proc) :
    s.Alive proc ∧ (proc ∈ s.streamerProcs → proc.cameraID ≠ camID) := by
  obtain ⟨hlaunched, hkilled, hexited⟩ := h
  obtain ⟨hnot, hkilled⟩ := not_or.mp (mt List.mem_append.mpr hkilled)
  refine ⟨⟨hlaunched, hkilled, hexited⟩, fun htracked hcam ↦ hnot ?_⟩
  exact List.mem_map.mpr ⟨proc, List.mem_filter.mpr ⟨htracked, by simpa using hcam⟩, rfl⟩

section

variable {wrap : RestartAt → Routine} (hwrap : Restarting wrap)

include hwrap

theorem stepOk_note {camID : Int64} (hfree : free camID) :
    streamerCustody.StepOk s (wrap (.called camID)) s [wrap (.note camID)] free := by
  refine .of_one (fun _ h ↦ h) (List.forall_mem_nil _) (fun k hk ↦ .inr ?_) (fun q _ hq ↦ ?_)
    fun q _ hq ↦ ?_
  · have heq : k = camID := by
      simpa [streamerCustody, hwrap.held, RestartAt.held, Held.has] using hk
    exact heq ▸ hfree
  · simpa [streamerCustody, hwrap.owned, RestartAt.owned] using hq
  · exact ((hwrap.drained _ _).mp hq).elim

theorem stepOk_found {stream : CameraStreamConfig} {camID : Int64}
    (hcam : stream.cameraId = camID) :
    streamerCustody.StepOk s (wrap (.note camID)) (s.noteRestart now camID)
      [wrap (.stop stream)] free := by
  refine .of_one (fun _ h ↦ h) (List.forall_mem_nil _) (fun k hk ↦ .inl ?_) (fun q _ hq ↦ ?_)
    fun q _ hq ↦ ?_
  · simpa [streamerCustody, hwrap.held, RestartAt.held, Held.has, hcam] using hk
  · simpa [streamerCustody, hwrap.owned, RestartAt.owned, Streamers.noteRestart] using hq
  · exact ((hwrap.drained _ _).mp hq).elim

theorem stepOk_stopped {stream : CameraStreamConfig} {wake : ℕ} :
    streamerCustody.StepOk s (wrap (.stop stream)) (s.stopStreamerForCamera stream.cameraId)
      [wrap (.sleep wake stream)] free := by
  have htracked : ∀ q, q ∈ streamerCustody.shared s ∨
      q ∈ streamerCustody.owned (wrap (.stop stream)) → q ∈ s.streamerProcs := by
    intro q hq
    simpa [streamerCustody, hwrap.owned, RestartAt.owned] using hq
  refine .of_one (fun q hq ↦ (alive_stopStreamerForCamera hq).1) (List.forall_mem_nil _)
    (fun k hk ↦ .inl ?_) (fun q hlive hq ↦ .inl ?_) fun q hlive hdrained hq ↦ ?_
  · simpa [streamerCustody, hwrap.held, RestartAt.held, Held.has] using hk
  · have hne := (alive_stopStreamerForCamera hlive).2 (htracked q hq)
    exact List.mem_filter.mpr ⟨htracked q hq, by simpa using hne⟩
  · have hne := (alive_stopStreamerForCamera hlive).2 (htracked q hq)
    exact absurd ((hwrap.drained _ _).mp hdrained).symm hne

theorem stepOk_started {stream : CameraStreamConfig} {wake : ℕ} :
    streamerCustody.StepOk s (wrap (.sleep wake stream)) (s.startProcess stream)
      [wrap (.track (s.nextProcess stream)), .process s.started] free := by
  refine .of_birth (fun q ↦ alive_startProcess) ?_ (fun k hk ↦ ?_) rfl ?_ ?_ (fun k hk ↦ ?_) ?_
  · exact List.forall_mem_singleton.mpr fun _ ↦ rfl
  · simpa [streamerCustody, hwrap.held, RestartAt.held, Held.has, Streamers.nextProcess] using hk
  · exact hwrap.owned _
  · exact hwrap.owned _
  · exact (hwrap.drained (.sleep wake stream) k).mpr ((hwrap.drained (.track _) k).mp hk)
  · exact (hwrap.drained (.sleep wake stream) _).mpr rfl

theorem stepOk_tracked {proc : StreamerProc} {rest : List Routine} (hrest : ∀ u ∈ rest, u.idle) :
    streamerCustody.StepOk s (wrap (.track proc)) (s.trackProcess proc) rest free := by
  refine .of_idle (fun _ h ↦ h) (fun q _ hq ↦ ?_) fun u hu camID ↦ (hrest u hu).not_has camID
  simpa [streamerCustody, hwrap.owned, RestartAt.owned, Streamers.trackProcess] using hq

/-- A step of `restartOneStream`, if the cooldown is passed for a free camera only. -/
theorem restartOneStream_stepOk {cfg : Config} {point : RestartAt} {point' : Option RestartAt}
    {rest : List Routine} (hrest : ∀ u ∈ rest, u.idle)
    (hfree : ∀ camID, point = .called camID → s.inCooldown now camID = false → free camID)
    (h : s.restartOneStream now cfg point input = some (s', point', rs)) :
    streamerCustody.StepOk s (wrap point) s'
      (point'.elim rest (fun point ↦ [wrap point]) ++ rs) free := by
  have hidle : ∀ u ∈ rest ++ ([] : List Routine), u.idle := by rwa [List.append_nil]
  revert h
  fun_cases s.restartOneStream now cfg point input <;> intro h <;> cases h
  case case1 => exact stepOk_of_kept rfl (hwrap.owned _) hidle
  case case2 camID hcooldown =>
    exact stepOk_note hwrap (hfree camID rfl (Bool.eq_false_of_not_eq_true hcooldown))
  case case3 => exact stepOk_of_kept rfl (hwrap.owned _) hidle
  case case4 camID stream hfound =>
    obtain ⟨hcam, -⟩ : stream.cameraId = camID ∧ stream.enabled = true := by
      simpa using List.find?_some hfound
    exact stepOk_found hwrap hcam
  case case5 => exact stepOk_stopped hwrap
  case case6 => exact stepOk_started hwrap
  case case7 => exact stepOk_of_kept rfl (hwrap.owned _) hidle
  case case9 proc =>
    refine stepOk_tracked hwrap (List.forall_mem_append.mpr ⟨hrest, ?_⟩)
    exact List.forall_mem_singleton.mpr rfl

end

/-! ### A request -/

/-- A caller that owns nothing goes on with no more cameras than it had. -/
theorem stepOk_caller {point point' : CallerAt} {more : List Routine}
    (hlive : ∀ proc, s'.Alive proc → s.Alive proc) (hprocs : s'.streamerProcs = s.streamerProcs)
    (howned : point.owned = [])
    (hheld : ∀ camID, point'.held.has camID = true → point.held.has camID = true)
    (hmore : ∀ u ∈ more, u.idle) :
    streamerCustody.StepOk s (.caller point) s' (.caller point' :: more) free := by
  have hnone : streamerCustody.owned (.caller point) = [] := howned
  refine .of_one hlive (fun u hu camID ↦ (hmore u hu).not_has camID) (fun k hk ↦ .inl (hheld k hk))
    (fun q _ hq ↦ .inl ?_) fun q _ hdrained hq hr ↦ ?_
  · rw [hnone] at hq
    exact (congrArg (q ∈ ·) hprocs).mpr (hq.resolve_right List.not_mem_nil)
  · have hmem := hr (hheld q.cameraID hdrained)
    rw [hnone] at hmem
    cases hmem

/-- The tracked processes are taken while no camera is held. -/
theorem stepOk_take {after : AfterStop} (hfree : ∀ camID, free camID) :
    streamerCustody.StepOk s (.caller (.stop after .take)) { s with streamerProcs := [] }
      [.caller (.stop after (.kill s.streamerProcs))] free := by
  refine .of_one (fun _ h ↦ h) (List.forall_mem_nil _) (fun k _ ↦ .inr (hfree k))
    (fun q _ hq ↦ .inr ?_) fun q _ _ hq _ ↦ ?_
  all_goals exact hq.resolve_right List.not_mem_nil

theorem stepOk_kill {after : AfterStop} {proc : StreamerProc} {procs : List StreamerProc} :
    streamerCustody.StepOk s (.caller (.stop after (.kill (proc :: procs))))
      { s with killed := proc.cmd :: s.killed }
      [.caller (.stop after (.wait proc procs))] free := by
  have hother : ∀ q, Streamers.Alive { s with killed := proc.cmd :: s.killed } q →
      q ∈ proc :: procs → q ∈ procs := by
    intro q hlive hq
    refine (List.mem_cons.mp hq).resolve_left ?_
    rintro rfl
    exact hlive.2.1 List.mem_cons_self
  refine .of_one (fun q hq ↦ ?_) (List.forall_mem_nil _) (fun k _ ↦ .inl rfl)
    (fun q hlive hq ↦ hq.imp_right (hother q hlive)) fun q hlive _ _ hr ↦ hother q hlive (hr rfl)
  exact ⟨hq.1, fun h ↦ hq.2.1 (List.mem_cons_of_mem _ h), hq.2.2⟩

theorem stepOk_wait {after : AfterStop} {proc : StreamerProc} {procs : List StreamerProc} :
    streamerCustody.StepOk s (.caller (.stop after (.wait proc procs))) s
      [.caller (.stop after (.kill procs))] free :=
  .of_one (fun _ h ↦ h) (List.forall_mem_nil _) (fun _ _ ↦ .inl rfl) (fun _ _ h ↦ h)
    fun _ _ _ _ hr ↦ hr rfl

theorem stepOk_launch {cfg : Config} {multiCam any : Bool} {stream : CameraStreamConfig}
    {rest : List CameraStreamConfig} :
    streamerCustody.StepOk s (.caller (.launch cfg multiCam any (stream :: rest)))
      (s.startProcess stream)
      [.caller (.track cfg multiCam rest (s.nextProcess stream)), .process s.started] free := by
  refine .of_birth (fun q ↦ alive_startProcess) ?_ (fun k hk ↦ hk) rfl rfl rfl (fun k hk ↦ hk) ?_
  · exact List.forall_mem_singleton.mpr fun _ ↦ rfl
  · exact decide_eq_true List.mem_cons_self

/-- Its process is tracked. The streams that follow are those of other cameras. -/
theorem stepOk_track {cfg : Config} {multiCam : Bool} {rest : List CameraStreamConfig}
    {proc : StreamerProc} {point' : CallerAt} (hheld : point'.held = .only (rest.map (·.cameraId)))
    (hproc : proc.cameraID ∉ rest.map (·.cameraId)) :
    streamerCustody.StepOk s (.caller (.track cfg multiCam rest proc)) (s.trackProcess proc)
      [.caller point', .waitStreamerProc proc] free := by
  have hrest : ∀ k, (Routine.caller point').held.has k = true → k ∈ rest.map (·.cameraId) := by
    intro k hk
    rw [Routine.held, hheld] at hk
    exact of_decide_eq_true hk
  have hmore : ∀ k ∈ rest.map (·.cameraId), (CallerAt.track cfg multiCam rest proc).held.has k :=
    fun k hk ↦ decide_eq_true (List.mem_cons_of_mem _ hk)
  refine .of_one (fun _ h ↦ h) (List.forall_mem_singleton.mpr fun _ ↦ rfl)
    (fun k hk ↦ .inl (hmore k (hrest k hk))) (fun q _ hq ↦ .inl (List.mem_append.mpr hq))
    fun q _ hdrained _ hr ↦ ?_
  have hcam := hrest _ hdrained
  have heq : q = proc := List.mem_singleton.mp (hr (hmore _ hcam))
  exact absurd (heq ▸ hcam) hproc

/-- The point at which the tracked processes are taken. -/
def CallerAt.takes : CallerAt → Bool
  | stop _ .take => true
  | _ => false

/-- The streams are of different cameras. -/
def Config.DistinctIds (cfg : Config) : Prop := (cfg.camera.streams.map (·.cameraId)).Nodup

def AfterStop.Distinct : AfterStop → Prop
  | nothing => True
  | restart cfg => ∀ c ∈ cfg, c.DistinctIds
  | start cfg => cfg.DistinctIds

/-- The streams that are still to be started are of different cameras. -/
def CallerAt.Distinct : CallerAt → Prop
  | stop after _ => after.Distinct
  | restartSleep _ cfg | sync cfg => ∀ c ∈ cfg, c.DistinctIds
  | scan cfg => cfg.DistinctIds
  | track _ _ rest proc => (proc.cameraID :: rest.map (·.cameraId)).Nodup
  | launch _ _ _ rest | stagger _ _ rest _ => (rest.map (·.cameraId)).Nodup
  | idle | startStreamWatchdog _ => True

theorem stopStreamWatchdog_processes : s.stopStreamWatchdog.processes = s.processes := by
  rw [Streamers.stopStreamWatchdog]
  split <;> rfl

theorem startStreamWatchdog_processes {cfg : Config} :
    (s.startStreamWatchdog now cfg).1.processes = s.processes ∧
      ∀ u ∈ (s.startStreamWatchdog now cfg).2, u.idle := by
  fun_cases s.startStreamWatchdog now cfg
  all_goals exact ⟨rfl, by simp [Routine.idle, Routine.held]⟩

theorem stopStreamers_stepOk {after : AfterStop} {point point' : StopAt}
    (hfree : point = .take → ∀ camID, free camID)
    (h : stopStreamers now s point input = some (s', point')) :
    streamerCustody.StepOk s (.caller (.stop after point)) s'
      [.caller (.stop after point')] free := by
  revert h
  fun_cases stopStreamers now s point input <;> intro h <;> cases h
  case case1 => exact stepOk_caller (fun _ h ↦ h) rfl rfl (fun _ h ↦ h) (List.forall_mem_nil _)
  case case2 =>
    exact stepOk_of_kept stopStreamWatchdog_processes rfl (List.forall_mem_singleton.mpr rfl)
  case case3 => exact stepOk_take (hfree rfl)
  case case4 => exact stepOk_kill
  case case5 => exact stepOk_wait
  case case7 =>
    exact stepOk_caller (fun _ h ↦ h) rfl rfl (fun _ _ ↦ rfl) (List.forall_mem_nil _)
  case case8 ok =>
    refine stepOk_caller (fun q hq ↦ ⟨hq.1, fun hkilled ↦ hq.2.1 ?_, hq.2.2⟩) rfl rfl (fun _ h ↦ ?_)
      (List.forall_mem_nil _)
    · cases ok with
      | false => exact hkilled
      | true => exact List.mem_append_right _ hkilled
    · cases after <;> exact h

theorem callStreamers_stepOk_of_ne_stop {point : CallerAt}
    (hstop : ∀ after point', point ≠ .stop after point') (hdistinct : point.Distinct)
    (h : callStreamers E now s point input = some (s', rs)) :
    streamerCustody.StepOk s (.caller point) s' rs free := by
  revert h hstop hdistinct
  fun_cases callStreamers E now s point input <;> intro hstop hdistinct h
  case case7 | case9 => exact absurd rfl (hstop _ _)
  all_goals cases h
  case case5 | case22 =>
    obtain ⟨hkept, hidle⟩ := startStreamWatchdog_processes
    exact stepOk_of_kept hkept rfl (List.forall_mem_cons.mpr ⟨rfl, hidle⟩)
  case case6 =>
    exact stepOk_of_kept stopStreamWatchdog_processes rfl (List.forall_mem_singleton.mpr rfl)
  case case15 =>
    exact stepOk_caller (fun _ h ↦ h) rfl rfl (fun _ _ ↦ rfl) (List.forall_mem_nil _)
  case case16 any =>
    refine stepOk_of_kept rfl rfl (List.forall_mem_singleton.mpr ?_)
    cases any <;> rfl
  case case17 => exact stepOk_launch
  case case18 =>
    refine stepOk_caller (fun _ h ↦ h) rfl rfl (fun _ h ↦ ?_) (List.forall_mem_nil _)
    exact decide_eq_true (List.mem_cons_of_mem _ (of_decide_eq_true h))
  case case19 =>
    refine stepOk_track ?_ (List.nodup_cons.mp hdistinct).1
    split <;> rfl
  case case20 => exact stepOk_caller (fun _ h ↦ h) rfl rfl (fun _ h ↦ h) (List.forall_mem_nil _)
  all_goals exact stepOk_of_kept rfl rfl (List.forall_mem_singleton.mpr rfl)

theorem callStreamers_stepOk {point : CallerAt} (hdistinct : point.Distinct)
    (hfree : point.takes = true → ∀ camID, free camID)
    (h : callStreamers E now s point input = some (s', rs)) :
    streamerCustody.StepOk s (.caller point) s' rs free := by
  by_cases hstop : ∃ after point', point = .stop after point'
  · obtain ⟨after, point, rfl⟩ := hstop
    rcases callStreamers_stop h with ⟨wake, rfl, rfl, rfl⟩ | ⟨next, hstep, rfl⟩
    · refine stepOk_caller (fun q hq ↦ ?_) ?_ rfl (fun _ h ↦ ?_) (List.forall_mem_nil _)
      all_goals cases after
      all_goals first | assumption | rfl
    · exact stopStreamers_stepOk (fun htake ↦ hfree (by rw [htake]; rfl)) hstep
  · exact callStreamers_stepOk_of_ne_stop (fun after point' heq ↦ hstop ⟨after, point', heq⟩)
      hdistinct h

/-! ### The other goroutines -/

/-- Outside of a restart a loop counts the windows with a low frame rate, and holds no camera. -/
theorem streamWatchdogLoop_of_ne_restart {own : ℕ} {ticker : Ticker} {point : LoopAt}
    (hpoint : ∀ cfg rest restart, point ≠ .restart cfg rest restart)
    (h : streamWatchdogLoop now s own ticker point input = some (s', rs)) :
    (∃ streak, s' = { s with lowFPSStreak := streak }) ∧ ∀ u ∈ rs, u.idle := by
  revert h hpoint
  fun_cases streamWatchdogLoop now s own ticker point input <;> intro hpoint h
  case case1 =>
    cases h
    refine ⟨⟨_, rfl⟩, List.forall_mem_singleton.mpr ?_⟩
    cases point with
    | restart => exact absurd rfl (hpoint _ _ _)
    | _ => rfl
  case case16 => exact absurd rfl (hpoint _ _ _)
  all_goals cases h
  case case4 => exact ⟨⟨_, rfl⟩, List.forall_mem_nil _⟩
  case case15 =>
    refine ⟨⟨_, rfl⟩, List.forall_mem_singleton.mpr ?_⟩
    split <;> rfl
  all_goals exact ⟨⟨_, rfl⟩, List.forall_mem_singleton.mpr rfl⟩

theorem restarting_watchdog (own : ℕ) (ticker : Ticker) (cfg : Config)
    (rest : List CameraStreamConfig) :
    Restarting fun point ↦ .watchdog own ticker (.restart cfg rest point) :=
  ⟨fun _ ↦ rfl, fun _ ↦ rfl, fun _ _ ↦ Iff.rfl, fun _ ↦ rfl, fun _ ↦ rfl⟩

theorem restarting_exitRestart (cfg : Config) : Restarting (.exitRestart cfg) :=
  ⟨fun _ ↦ rfl, fun _ ↦ rfl, fun _ _ ↦ Iff.rfl, fun _ ↦ rfl, fun _ ↦ rfl⟩

def Routine.takes : Routine → Bool
  | caller point => point.takes
  | _ => false

/-- What is known of a goroutine by itself. -/
def Routine.Wf (s : Streamers) : Routine → Prop
  | caller point => point.Distinct
  | waited proc => proc.cmd ∈ s.exited
  | _ => True

theorem streamWatchdogLoop_stepOk {own : ℕ} {ticker : Ticker} {point : LoopAt}
    (hfree : ∀ camID, (Routine.watchdog own ticker point).calls = some camID →
      s.inCooldown now camID = false → free camID)
    (h : streamWatchdogLoop now s own ticker point input = some (s', rs)) :
    streamerCustody.StepOk s (.watchdog own ticker point) s' rs free := by
  by_cases hpoint : ∃ cfg rest restart, point = .restart cfg rest restart
  · obtain ⟨cfg, rest, point, rfl⟩ := hpoint
    have hrestart := restarting_watchdog own ticker cfg rest
    have hcalls : ∀ camID, point = .called camID → s.inCooldown now camID = false → free camID :=
      fun camID heq ↦ hfree camID (by rw [heq]; rfl)
    cases input with
    | fire =>
      obtain ⟨-, h⟩ := Option.ite_none_right_eq_some.mp h
      cases h
      exact .of_one (fun _ h ↦ h) (List.forall_mem_nil _) (fun _ h ↦ .inl h) (fun _ _ h ↦ h)
        fun _ _ h _ hr ↦ hr h
    | _ =>
      obtain ⟨⟨s₁, point', more⟩, hstep, heq⟩ := Option.map_eq_some_iff.mp h
      cases heq
      have hidle : ∀ u ∈ [Routine.watchdog own ticker (.streams cfg rest)], u.idle :=
        List.forall_mem_singleton.mpr rfl
      have hok := restartOneStream_stepOk hrestart hidle hcalls hstep
      cases point' <;> exact hok
  · have howned : (Routine.watchdog own ticker point).owned = [] := by
      cases point with
      | restart => exact absurd ⟨_, _, _, rfl⟩ hpoint
      | _ => rfl
    obtain ⟨⟨streak, rfl⟩, hidle⟩ := streamWatchdogLoop_of_ne_restart
      (fun cfg rest restart heq ↦ hpoint ⟨cfg, rest, restart, heq⟩) h
    exact stepOk_of_kept rfl howned hidle

/-- The goroutines that follow an exit hold no camera before the restart. -/
theorem ExitStep.idle (h : ExitStep now s r s' rs) : ∀ u ∈ rs, u.idle := by
  cases h with
  | removes =>
    intro u hu
    obtain ⟨cfg, wake, rfl⟩ := eq_exitSleep_of_mem_onStreamerExited hu
    rfl
  | exited | suppressed | running => exact List.forall_mem_nil _
  | waits | wakes | restarts => exact List.forall_mem_singleton.mpr rfl

theorem ExitStep.stepOk (h : ExitStep now s r s' rs) (hwf : r.Wf s) :
    streamerCustody.StepOk s r s' rs free := by
  have hidle : ∀ u ∈ rs, ∀ camID, u.held.has camID = false := fun u hu ↦ (h.idle u hu).not_has
  cases h with
  | exited cmd =>
    refine .of_idle (fun q hq ↦ ?_) (fun q _ hq ↦ hq.resolve_right List.not_mem_nil) hidle
    exact ⟨hq.1, hq.2.1, fun hexited ↦ hq.2.2 (List.mem_cons_of_mem _ hexited)⟩
  | removes proc =>
    refine .of_idle (fun _ h ↦ h) (fun q hlive hq ↦ ?_) hidle
    -- what is taken off the list has exited
    have hexited : proc.cmd ∈ s.exited := hwf
    have hne : q.cmd ≠ proc.cmd := fun heq ↦ hlive.2.2 (by rw [heq]; exact hexited)
    exact (List.mem_eraseP_of_neg (by simpa using hne)).mpr (hq.resolve_right List.not_mem_nil)
  | waits | suppressed | wakes | running | restarts =>
    exact .of_idle (fun _ h ↦ h) (fun q _ hq ↦ hq.resolve_right List.not_mem_nil) hidle

/-- Every step, if the cooldown is passed for a free camera only and the tracked processes are taken
only when all are free. -/
theorem streamerExec_stepOk (hwf : r.Wf s)
    (hcalls : ∀ camID, r.calls = some camID → s.inCooldown now camID = false → free camID)
    (htakes : r.takes = true → ∀ camID, free camID)
    (h : streamerExec E now s r input = some (s', rs)) :
    streamerCustody.StepOk s r s' rs free := by
  rcases streamerExec_cases h with ⟨point, rfl, h⟩ | ⟨own, ticker, point, rfl, h⟩ |
    ⟨cfg, point, point', more, rfl, hstep, rfl⟩ | hexit
  · exact callStreamers_stepOk hwf htakes h
  · exact streamWatchdogLoop_stepOk hcalls h
  · have hnone : ∀ u ∈ ([] : List Routine), u.idle := List.forall_mem_nil _
    have hok := restartOneStream_stepOk (restarting_exitRestart cfg) hnone
      (fun camID heq ↦ hcalls camID (by rw [heq]; rfl)) hstep
    cases point' <;> exact hok
  · exact hexit.stepOk hwf

end

end DroneBridge
