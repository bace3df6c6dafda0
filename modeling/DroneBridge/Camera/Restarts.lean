import DroneBridge.Camera.StreamerCustody
import Mathlib.Data.Finset.Card

/-!
# One process for each camera

The checks before a restart and the restart itself are separate steps, and no lock spans them. Two
goroutines that find the same stream dead both pass the cooldown before either has noted its
restart, and then both start a process. A start by a request that comes in between ends no better.

If the cooldown is passed only for a camera that nobody holds, and the tracked processes are taken
only when no camera is held, then a camera never has two processes, and its restarts are 20 s apart
(`one_process_for_each_camera`).
-/

namespace DroneBridge

open Clock (second)

section

variable {E : StreamerEnv} {now : ℕ} {s s' : Streamers} {rs : List Routine} {r : Routine}
  {input : StreamerInput}

/-! ## What is known of the goroutines -/

/-- The cameras of a start are distinct. -/
def StreamerInput.Distinct : StreamerInput → Prop
  | call (.startStreamers cfg) | call (.restartStreamers cfg) => ∀ c ∈ cfg, c.DistinctIds
  | _ => True

theorem nodup_of_scan {cfg : Config} {sensors : Int64 → Bool} (h : cfg.DistinctIds) :
    ((sortStreamsForStartup (if cfg.camera.skipMissingSensors then
      filterStreamsWithSensors sensors (enabledStreamsSorted cfg)
      else enabledStreamsSorted cfg)).map (·.cameraId)).Nodup := by
  have hsorted : ((enabledStreamsSorted cfg).map (·.cameraId)).Nodup := by
    refine ((List.perm_insertionSort _ _).map _).nodup_iff.mpr ?_
    exact h.sublist (List.filter_sublist.map _)
  refine ((List.perm_insertionSort _ _).map _).nodup_iff.mpr ?_
  split
  · exact hsorted.sublist (List.filter_sublist.map _)
  · exact hsorted

theorem distinctIds_ensureDefaultStreams {cfg : Config} (h : cfg.DistinctIds) :
    Config.DistinctIds { cfg with camera := cfg.camera.ensureDefaultStreams } := by
  rw [Config.DistinctIds] at h ⊢
  cases hstreams : cfg.camera.streams with
  | nil =>
    simp only [CameraConfig.ensureDefaultStreams, hstreams]
    decide
  | cons stream streams =>
    rw [hstreams] at h
    simpa only [CameraConfig.ensureDefaultStreams, hstreams] using h

theorem callStreamers_wf {point : CallerAt} (hpoint : point.Distinct) (hinput : input.Distinct)
    (h : callStreamers E now s point input = some (s', rs)) : ∀ u ∈ rs, u.Wf s' := by
  revert h hpoint hinput
  fun_cases callStreamers E now s point input <;> intro hpoint hinput h
  case case9 =>
    obtain ⟨⟨s₁, point'⟩, -, heq⟩ := Option.map_eq_some_iff.mp h
    cases heq
    exact List.forall_mem_singleton.mpr hpoint
  all_goals cases h
  case case2 | case3 => exact List.forall_mem_singleton.mpr hinput
  case case5 cfg | case22 cfg =>
    refine List.forall_mem_cons.mpr ⟨trivial, ?_⟩
    fun_cases s.startStreamWatchdog now cfg
    case case2 => exact List.forall_mem_singleton.mpr trivial
    all_goals exact List.forall_mem_nil _
  case case7 after _ _ =>
    refine List.forall_mem_singleton.mpr ?_
    cases after with
    | nothing => trivial
    | restart cfg => exact hpoint
    | start cfg => exact hpoint
  case case10 | case20 => exact List.forall_mem_singleton.mpr hpoint
  case case13 =>
    exact List.forall_mem_singleton.mpr (distinctIds_ensureDefaultStreams (hpoint _ rfl))
  case case15 => exact List.forall_mem_singleton.mpr (nodup_of_scan hpoint)
  case case16 any => cases any <;> exact List.forall_mem_singleton.mpr trivial
  case case17 => exact List.forall_mem_cons.mpr ⟨hpoint, List.forall_mem_singleton.mpr trivial⟩
  case case18 => exact List.forall_mem_singleton.mpr (List.nodup_cons.mp hpoint).2
  case case19 =>
    refine List.forall_mem_cons.mpr ⟨?_, List.forall_mem_singleton.mpr trivial⟩
    split <;> exact (List.nodup_cons.mp hpoint).2
  all_goals exact List.forall_mem_singleton.mpr trivial

theorem restartOneStream_wf {cfg : Config} {point : RestartAt} {point' : Option RestartAt}
    (h : s.restartOneStream now cfg point input = some (s', point', rs)) : ∀ u ∈ rs, u.Wf s' := by
  revert h
  fun_cases s.restartOneStream now cfg point input <;> intro h <;> cases h
  case case6 | case9 => exact List.forall_mem_singleton.mpr trivial
  all_goals exact List.forall_mem_nil _

theorem streamWatchdogLoop_wf {own : ℕ} {ticker : Ticker} {point : LoopAt}
    (h : streamWatchdogLoop now s own ticker point input = some (s', rs)) : ∀ u ∈ rs, u.Wf s' := by
  revert h
  fun_cases streamWatchdogLoop now s own ticker point input <;> intro h
  case case16 =>
    obtain ⟨⟨s₁, point', more⟩, hstep, heq⟩ := Option.map_eq_some_iff.mp h
    cases heq
    exact List.forall_mem_cons.mpr ⟨trivial, restartOneStream_wf hstep⟩
  all_goals cases h
  case case4 => exact List.forall_mem_nil _
  all_goals exact List.forall_mem_singleton.mpr trivial

theorem ExitStep.wf (h : ExitStep now s r s' rs) : ∀ u ∈ rs, u.Wf s' := by
  cases h with
  | waits _ _ hexited => exact List.forall_mem_singleton.mpr hexited
  | removes =>
    intro u hu
    obtain ⟨cfg, wake, rfl⟩ := eq_exitSleep_of_mem_onStreamerExited hu
    trivial
  | exited | suppressed | running => exact List.forall_mem_nil _
  | wakes | restarts => exact List.forall_mem_singleton.mpr trivial

theorem streamerExec_wf (hr : r.Wf s) (hinput : input.Distinct)
    (h : streamerExec E now s r input = some (s', rs)) : ∀ u ∈ rs, u.Wf s' := by
  rcases streamerExec_cases h with ⟨point, rfl, h⟩ | ⟨own, ticker, point, rfl, h⟩ |
    ⟨cfg, point, point', more, rfl, hstep, rfl⟩ | hexit
  · exact callStreamers_wf hr hinput h
  · exact streamWatchdogLoop_wf h
  · refine List.forall_mem_append.mpr ⟨?_, restartOneStream_wf hstep⟩
    cases point' with
    | none => exact List.forall_mem_nil _
    | some point' => exact List.forall_mem_singleton.mpr trivial
  · exact hexit.wf

/-! ## What a step does to the records -/

/-- Processes are numbered as they are started, and an exit is not forgotten. -/
structure Recorded (s s' : Streamers) : Prop where
  launched : s'.launched = s.launched ∨
    ∃ stream, s'.launched = s.launched ++ [s.nextProcess stream]
  exited : s.exited ⊆ s'.exited

theorem Recorded.of_eq (hlaunched : s'.launched = s.launched) (hexited : s'.exited = s.exited) :
    Recorded s s' :=
  ⟨.inl hlaunched, hexited ▸ List.Subset.refl _⟩

theorem recorded_startProcess (stream : CameraStreamConfig) :
    Recorded s (s.startProcess stream) :=
  ⟨.inr ⟨stream, rfl⟩, List.Subset.refl _⟩

theorem restartOneStream_recorded {cfg : Config} {point : RestartAt} {point' : Option RestartAt}
    (h : s.restartOneStream now cfg point input = some (s', point', rs)) : Recorded s s' := by
  revert h
  fun_cases s.restartOneStream now cfg point input <;> intro h <;> cases h
  case case6 => exact recorded_startProcess _
  all_goals exact .of_eq rfl rfl

/-- The times of the restarts stay, or one more is noted. A goroutine that is to note one has just
passed the cooldown. -/
inductive Noting (now : ℕ) (s : Streamers) (r : Routine) (s' : Streamers) (rs : List Routine) : Prop
  | kept (hlast : s'.lastRestartAt = s.lastRestartAt) (hrestarts : s'.restarts = s.restarts)
      (hnotes : ∀ u ∈ rs, ∀ camID, u.notes = some camID →
        r.notes = some camID ∨ r.calls = some camID ∧ s.inCooldown now camID = false)
  | noted (camID : Int64) (hr : r.notes = some camID)
      (hlast : s'.lastRestartAt = Function.update s.lastRestartAt camID (some now))
      (hrestarts : s'.restarts = (camID, now) :: s.restarts)
      (hnotes : ∀ u ∈ rs, u.notes = none)

theorem Noting.of_none (hlast : s'.lastRestartAt = s.lastRestartAt)
    (hrestarts : s'.restarts = s.restarts) (hnotes : ∀ u ∈ rs, u.notes = none) :
    Noting now s r s' rs :=
  .kept hlast hrestarts fun u hu _ h ↦
    absurd ((hnotes u hu).symm.trans h) (Option.some_ne_none _).symm

theorem restartOneStream_noting {wrap : RestartAt → Routine} (hwrap : Restarting wrap)
    {cfg : Config} {point : RestartAt} {point' : Option RestartAt} {rest : List Routine}
    (hrest : ∀ u ∈ rest, u.notes = none)
    (h : s.restartOneStream now cfg point input = some (s', point', rs)) :
    Noting now s (wrap point) s' (point'.elim rest (fun point ↦ [wrap point]) ++ rs) := by
  have hnone : ∀ u ∈ rest ++ ([] : List Routine), u.notes = none := by rwa [List.append_nil]
  revert h
  fun_cases s.restartOneStream now cfg point input <;> intro h <;> cases h
  case case2 camID hcooldown =>
    refine .kept rfl rfl (List.forall_mem_singleton.mpr fun k hk ↦ .inr ?_)
    rw [hwrap.notes] at hk
    cases hk
    exact ⟨hwrap.calls _, Bool.eq_false_of_not_eq_true hcooldown⟩
  case case3 camID _ => exact .noted camID (hwrap.notes _) rfl rfl hnone
  case case4 camID _ _ =>
    exact .noted camID (hwrap.notes _) rfl rfl (List.forall_mem_singleton.mpr (hwrap.notes _))
  case case5 => exact .of_none rfl rfl (List.forall_mem_singleton.mpr (hwrap.notes _))
  case case6 =>
    exact .of_none rfl rfl (List.forall_mem_cons.mpr
      ⟨hwrap.notes _, List.forall_mem_singleton.mpr rfl⟩)
  case case9 =>
    exact .of_none rfl rfl (List.forall_mem_append.mpr ⟨hrest, List.forall_mem_singleton.mpr rfl⟩)
  all_goals exact .of_none rfl rfl hnone

/-- A step that has nothing to do with the times. -/
structure Silent (s s' : Streamers) (rs : List Routine) : Prop where
  recorded : Recorded s s'
  lastRestartAt : s'.lastRestartAt = s.lastRestartAt
  restarts : s'.restarts = s.restarts
  notes : ∀ u ∈ rs, u.notes = none

theorem Silent.noting (h : Silent s s' rs) : Noting now s r s' rs :=
  .of_none h.lastRestartAt h.restarts h.notes

theorem stopStreamWatchdog_silent (hrs : ∀ u ∈ rs, u.notes = none) :
    Silent s s.stopStreamWatchdog rs := by
  rw [Streamers.stopStreamWatchdog]
  split <;> exact ⟨.of_eq rfl rfl, rfl, rfl, hrs⟩

theorem startStreamWatchdog_silent {cfg : Config} :
    Silent s (s.startStreamWatchdog now cfg).1
      (.caller .idle :: (s.startStreamWatchdog now cfg).2) := by
  fun_cases s.startStreamWatchdog now cfg
  all_goals exact ⟨.of_eq rfl rfl, rfl, rfl, by simp [Routine.notes]⟩

theorem stopStreamers_silent {after : AfterStop} {point point' : StopAt}
    (h : stopStreamers now s point input = some (s', point')) :
    Silent s s' [.caller (.stop after point')] := by
  revert h
  fun_cases stopStreamers now s point input <;> intro h <;> cases h
  case case2 => exact stopStreamWatchdog_silent (List.forall_mem_singleton.mpr rfl)
  all_goals exact ⟨.of_eq rfl rfl, rfl, rfl, List.forall_mem_singleton.mpr rfl⟩

theorem callStreamers_silent {point : CallerAt}
    (h : callStreamers E now s point input = some (s', rs)) : Silent s s' rs := by
  revert h
  fun_cases callStreamers E now s point input <;> intro h
  case case9 =>
    obtain ⟨⟨s₁, point'⟩, hstep, heq⟩ := Option.map_eq_some_iff.mp h
    cases heq
    exact stopStreamers_silent hstep
  all_goals cases h
  case case5 | case22 => exact startStreamWatchdog_silent
  case case6 => exact stopStreamWatchdog_silent (List.forall_mem_singleton.mpr rfl)
  case case7 after _ _ =>
    cases after <;> exact ⟨.of_eq rfl rfl, rfl, rfl, List.forall_mem_singleton.mpr rfl⟩
  case case17 =>
    exact ⟨recorded_startProcess _, rfl, rfl,
      List.forall_mem_cons.mpr ⟨rfl, List.forall_mem_singleton.mpr rfl⟩⟩
  case case19 =>
    exact ⟨.of_eq rfl rfl, rfl, rfl,
      List.forall_mem_cons.mpr ⟨rfl, List.forall_mem_singleton.mpr rfl⟩⟩
  all_goals exact ⟨.of_eq rfl rfl, rfl, rfl, List.forall_mem_singleton.mpr rfl⟩

theorem streamWatchdogLoop_noting {own : ℕ} {ticker : Ticker} {point : LoopAt}
    (h : streamWatchdogLoop now s own ticker point input = some (s', rs)) :
    Recorded s s' ∧ Noting now s (.watchdog own ticker point) s' rs := by
  by_cases hpoint : ∃ cfg rest restart, point = .restart cfg rest restart
  · obtain ⟨cfg, rest, point, rfl⟩ := hpoint
    cases input with
    | fire =>
      obtain ⟨-, h⟩ := Option.ite_none_right_eq_some.mp h
      cases h
      exact ⟨.of_eq rfl rfl, .kept rfl rfl (List.forall_mem_singleton.mpr fun _ h ↦ .inl h)⟩
    | _ =>
      obtain ⟨⟨s₁, point', more⟩, hstep, heq⟩ := Option.map_eq_some_iff.mp h
      cases heq
      have hnone : ∀ u ∈ [Routine.watchdog own ticker (.streams cfg rest)], u.notes = none :=
        List.forall_mem_singleton.mpr rfl
      have hnoting := restartOneStream_noting (restarting_watchdog own ticker cfg rest) hnone hstep
      refine ⟨restartOneStream_recorded hstep, ?_⟩
      cases point' <;> exact hnoting
  · obtain ⟨⟨streak, rfl⟩, hidle⟩ := streamWatchdogLoop_of_ne_restart
      (fun cfg rest restart heq ↦ hpoint ⟨cfg, rest, restart, heq⟩) h
    exact ⟨.of_eq rfl rfl, .of_none rfl rfl fun u hu ↦ (hidle u hu).notes⟩

theorem ExitStep.silent (h : ExitStep now s r s' rs) : Silent s s' rs := by
  have hnotes : ∀ u ∈ rs, u.notes = none := fun u hu ↦ (h.idle u hu).notes
  cases h with
  | exited => exact ⟨⟨.inl rfl, List.subset_cons_self _ _⟩, rfl, rfl, hnotes⟩
  | _ => exact ⟨.of_eq rfl rfl, rfl, rfl, hnotes⟩

theorem streamerExec_noting (h : streamerExec E now s r input = some (s', rs)) :
    Recorded s s' ∧ Noting now s r s' rs := by
  rcases streamerExec_cases h with ⟨point, rfl, h⟩ | ⟨own, ticker, point, rfl, h⟩ |
    ⟨cfg, point, point', more, rfl, hstep, rfl⟩ | hexit
  · exact ⟨(callStreamers_silent h).recorded, (callStreamers_silent h).noting⟩
  · exact streamWatchdogLoop_noting h
  · have hnone : ∀ u ∈ ([] : List Routine), u.notes = none := List.forall_mem_nil _
    have hnoting := restartOneStream_noting (restarting_exitRestart cfg) hnone hstep
    refine ⟨restartOneStream_recorded hstep, ?_⟩
    cases point' <;> exact hnoting
  · exact ⟨hexit.silent.recorded, hexit.silent.noting⟩

theorem Routine.Wf.mono (h : r.Wf s) (hs : Recorded s s') : r.Wf s' := by
  cases r with
  | waited proc => exact hs.exited h
  | _ => exact h

/-! ## The whole run -/

/-- The restarts of a camera are 20 s apart; the latest comes first. -/
def RestartsApart (restarts : List (Int64 × ℕ)) : Prop :=
  restarts.Pairwise fun later earlier ↦
    later.1 = earlier.1 → (earlier.2 : ℤ) + streamRestartCooldown ≤ later.2

def Streamers.aliveFor (s : Streamers) (camID : Int64) : List StreamerProc :=
  s.launched.filter fun proc ↦ proc.cameraID = camID ∧ s.Alive proc

/-- The cooldown is passed for a camera that nobody holds, and the tracked processes are taken when
no camera is held. -/
def RestartsAlone (p : GoPool Streamers Routine) (e : GoEvent StreamerInput) : Prop :=
  ∀ r ∈ p.routines[e.routine]?,
    (∀ camID ∈ r.calls, p.memory.inCooldown e.now camID = false →
      ∀ u ∈ p.routines, u.held.has camID = false) ∧
    (r.takes = true → ∀ u ∈ p.routines, u.held = .only [])

instance (p : GoPool Streamers Routine) (e : GoEvent StreamerInput) :
    Decidable (RestartsAlone p e) :=
  haveI (r : Routine) : Decidable (∀ camID ∈ r.calls, p.memory.inCooldown e.now camID = false →
      ∀ u ∈ p.routines, u.held.has camID = false) := Option.decidableForallMem r.calls
  inferInstanceAs (Decidable (∀ r ∈ p.routines[e.routine]?, _ ∧ _))

/-- The last restart of a camera is 20 s ago. -/
def Streamers.Cooled (s : Streamers) (now : ℕ) (camID : Int64) : Prop :=
  ∀ last, s.lastRestartAt camID = some last → (last : ℤ) + streamRestartCooldown ≤ now

theorem Streamers.cooled_of_inCooldown {camID : Int64} (h : s.inCooldown now camID = false) :
    s.Cooled now camID := by
  intro last hlast
  rw [Streamers.inCooldown, hlast] at h
  have hnot := of_decide_eq_false h
  rw [Clock.sub_lt_iff] at hnot
  exact not_lt.mp hnot

theorem Streamers.Cooled.mono {camID : Int64} {later : ℕ} (h : s.Cooled now camID)
    (hlater : now ≤ later) : s.Cooled later camID :=
  fun last hlast ↦ (h last hlast).trans (Int.ofNat_le.mpr hlater)

variable {p p' : GoPool Streamers Routine} {e : GoEvent StreamerInput}

/-- What is known of the times of the restarts. -/
structure TimesOk (p : GoPool Streamers Routine) : Prop where
  latest : ∀ camID t, (camID, t) ∈ p.memory.restarts →
    ∃ last, p.memory.lastRestartAt camID = some last ∧ t ≤ last
  due : ∀ u ∈ p.routines, ∀ camID, u.notes = some camID → p.memory.Cooled p.clock camID
  apart : RestartsApart p.memory.restarts

structure RestartsOk (p : GoPool Streamers Routine) : Prop where
  safe : streamerCustody.Safe p.memory p.routines
  wf : ∀ u ∈ p.routines, u.Wf p.memory
  numbered : p.memory.launched.map (·.cmd) = List.range p.memory.launched.length
  times : TimesOk p

section

variable {before left after : List Routine}

theorem TimesOk.step_kept (h : TimesOk p) (hm : (streamers E).Moves p e p' r before left after)
    (hlast : p'.memory.lastRestartAt = p.memory.lastRestartAt)
    (hrestarts : p'.memory.restarts = p.memory.restarts)
    (hnotes : ∀ u ∈ left, ∀ camID, u.notes = some camID →
      r.notes = some camID ∨ r.calls = some camID ∧ p.memory.inCooldown e.now camID = false) :
    TimesOk p' where
  latest camID t ht := by
    rw [hlast]
    exact h.latest camID t (hrestarts ▸ ht)
  due u hu camID hcam := by
    rw [Streamers.Cooled, hlast, hm.clock']
    have hdue : ∀ v ∈ p.routines, v.notes = some camID → p.memory.Cooled e.now camID :=
      fun v hv hcam ↦ (h.due v hv camID hcam).mono hm.clock_le
    rcases hm.mem_routines'.mp hu with hleft | hother
    · rcases hnotes u hleft camID hcam with hr | ⟨-, hcooldown⟩
      · exact hdue r hm.mem hr
      · exact Streamers.cooled_of_inCooldown hcooldown
    · exact hdue u (hm.mem_of_mem_others hother) hcam
  apart := hrestarts ▸ h.apart

/-- A restart is noted. The last one of the camera is 20 s ago, and nobody else is to note one of
that camera. -/
theorem TimesOk.step_noted (h : TimesOk p) (hsafe : streamerCustody.Safe p.memory p.routines)
    (hm : (streamers E).Moves p e p' r before left after) {camID : Int64}
    (hr : r.notes = some camID)
    (hlast : p'.memory.lastRestartAt = Function.update p.memory.lastRestartAt camID (some e.now))
    (hrestarts : p'.memory.restarts = (camID, e.now) :: p.memory.restarts)
    (hnotes : ∀ u ∈ left, u.notes = none) : TimesOk p' := by
  have hcooled : p.memory.Cooled e.now camID := (h.due r hm.mem camID hr).mono hm.clock_le
  have hold : ∀ t, (camID, t) ∈ p.memory.restarts → (t : ℤ) + streamRestartCooldown ≤ e.now := by
    intro t ht
    obtain ⟨last, hlast, hle⟩ := h.latest camID t ht
    have hago := hcooled last hlast
    omega
  have hother : ∀ u ∈ before ++ after, u.notes ≠ some camID := by
    intro u hu hcam
    have hsafe' : streamerCustody.Safe p.memory (before ++ r :: after) := hm.routines ▸ hsafe
    have hnot : u.held.has camID = false := hsafe'.not_holds (Routine.held_of_notes hr) hu
    exact absurd (Routine.held_of_notes hcam) (ne_true_of_eq_false hnot)
  refine ⟨fun cam t ht ↦ ?_, fun u hu cam hcam ↦ ?_, ?_⟩
  · rw [hlast]
    rw [hrestarts] at ht
    by_cases heq : cam = camID
    · subst heq
      refine ⟨e.now, Function.update_self .., ?_⟩
      rcases List.mem_cons.mp ht with hnew | ht
      · exact (congrArg Prod.snd hnew).le
      · have hago := hold t ht
        rw [streamRestartCooldown, second] at hago
        omega
    · rw [Function.update_of_ne heq]
      refine h.latest cam t ((List.mem_cons.mp ht).resolve_left fun hnew ↦ ?_)
      exact heq (congrArg Prod.fst hnew)
  · rcases hm.mem_routines'.mp hu with hleft | hu
    · exact absurd ((hnotes u hleft).symm.trans hcam) (Option.some_ne_none _).symm
    · have hne : cam ≠ camID := fun heq ↦ hother u hu (heq ▸ hcam)
      rw [Streamers.Cooled, hlast, Function.update_of_ne hne, hm.clock']
      exact (h.due u (hm.mem_of_mem_others hu) cam hcam).mono hm.clock_le
  · rw [hrestarts]
    refine List.pairwise_cons.mpr ⟨fun earlier hearlier hcam ↦ hold _ ?_, h.apart⟩
    obtain ⟨cam, t⟩ := earlier
    cases hcam
    exact hearlier

theorem TimesOk.step (h : TimesOk p) (hsafe : streamerCustody.Safe p.memory p.routines)
    (hm : (streamers E).Moves p e p' r before left after)
    (hnoting : Noting e.now p.memory r p'.memory left) : TimesOk p' := by
  cases hnoting with
  | kept hlast hrestarts hnotes => exact h.step_kept hm hlast hrestarts hnotes
  | noted camID hr hlast hrestarts hnotes =>
    exact h.step_noted hsafe hm hr hlast hrestarts hnotes

end

theorem numbered_of_recorded (hs : Recorded s s')
    (h : s.launched.map (·.cmd) = List.range s.launched.length) :
    s'.launched.map (·.cmd) = List.range s'.launched.length := by
  rcases hs.launched with heq | ⟨stream, heq⟩
  · rwa [heq]
  · rw [heq, List.map_append, h, List.length_append, List.length_singleton, List.range_succ]
    rfl

theorem RestartsOk.step (h : RestartsOk p) (halone : RestartsAlone p e)
    (hdistinct : e.input.Distinct) (hstep : (streamers E).machine.step p e = some p') :
    RestartsOk p' := by
  obtain ⟨r, before, left, after, hm⟩ := Goroutines.moves_of_step hstep
  obtain ⟨hcalls, htakes⟩ := halone r hm.at_place
  have hwf := h.wf r hm.mem
  obtain ⟨hrecorded, hnoting⟩ := streamerExec_noting hm.exec
  refine ⟨?_, fun u hu ↦ ?_, numbered_of_recorded hrecorded h.numbered,
    h.times.step h.safe hm hnoting⟩
  · have hok : streamerCustody.StepOk p.memory r p'.memory left
        (fun camID ↦ ∀ u ∈ p.routines, u.held.has camID = false) :=
      streamerExec_stepOk hwf hcalls
        (fun htake camID u hu ↦ Routine.idle.not_has (htakes htake u hu) camID) hm.exec
    have hsafe : streamerCustody.Safe p.memory (before ++ r :: after) := hm.routines ▸ h.safe
    rw [hm.routines']
    exact hsafe.step hok fun camID hfree ↦ hm.routines ▸ hfree
  · rcases hm.mem_routines'.mp hu with hleft | hother
    · exact streamerExec_wf hwf hdistinct hm.exec u hleft
    · exact (h.wf u (hm.mem_of_mem_others hother)).mono hrecorded

theorem restartsOk_atRest (n : ℕ) : RestartsOk (streamersAtRest n) := by
  have hidle : ∀ u ∈ (streamersAtRest n).routines, u = .caller .idle :=
    fun u hu ↦ (List.mem_replicate.mp hu).2
  have hholds : ∀ u ∈ (streamersAtRest n).routines, ∀ k, u.held.has k = false := by
    intro u hu k
    rw [hidle u hu]
    rfl
  refine ⟨⟨fun k ↦ ?_, fun q hq ↦ ?_, fun u _ q hq ↦ ?_, fun q _ hq ↦ ?_⟩, fun u hu ↦ ?_, rfl, ?_⟩
  · refine (List.countP_eq_zero.mpr fun u hu ↦ ?_).le.trans (Nat.zero_le 1)
    exact ne_true_of_eq_false (hholds u hu k)
  iterate 3 exact absurd hq.1 List.not_mem_nil
  · rw [hidle u hu]
    trivial
  · refine ⟨fun _ _ ht ↦ absurd ht List.not_mem_nil, fun u hu camID hcam ↦ ?_, List.Pairwise.nil⟩
    rw [hidle u hu] at hcam
    cases hcam

theorem length_aliveFor_le_one (hnumbered : s.launched.map (·.cmd) = List.range s.launched.length)
    (hone : ∀ q q', s.Alive q → s.Alive q' → q.cameraID = q'.cameraID → q = q') (camID : Int64) :
    (s.aliveFor camID).length ≤ 1 := by
  have hnodup : (s.aliveFor camID).Nodup :=
    (List.Nodup.of_map _ (hnumbered ▸ List.nodup_range)).filter _
  rw [← List.toFinset_card_of_nodup hnodup, Finset.card_le_one]
  intro q hq q' hq'
  obtain ⟨-, hq⟩ := List.mem_filter.mp (List.mem_toFinset.mp hq)
  obtain ⟨-, hq'⟩ := List.mem_filter.mp (List.mem_toFinset.mp hq')
  obtain ⟨hcam, hlive⟩ := of_decide_eq_true hq
  obtain ⟨hcam', hlive'⟩ := of_decide_eq_true hq'
  exact hone q q' hlive hlive' (hcam.trans hcam'.symm)

/-- **At most one process is alive for each camera, and its restarts are 20 s apart**, if the
cooldown is passed and `StopStreamers` takes the processes only when nobody else is at work. -/
theorem one_process_for_each_camera {n : ℕ} {es : List (GoEvent StreamerInput)}
    (hdistinct : ∀ e ∈ es, e.input.Distinct)
    (halone : (streamers E).machine.Along RestartsAlone (streamersAtRest n) es)
    (hrun : (streamers E).machine.run (streamersAtRest n) es = some p) :
    (∀ camID, (p.memory.aliveFor camID).length ≤ 1) ∧ RestartsApart p.memory.restarts := by
  have hboth := halone.and (Machine.along_of_forall hdistinct _)
  have hok : RestartsOk p := Machine.invariant_along
    (fun _ _ _ h hP hstep ↦ RestartsOk.step h hP.1 hP.2 hstep) (restartsOk_atRest n) hboth hrun
  exact ⟨length_aliveFor_le_one hok.numbered hok.safe.one, hok.times.apart⟩

end

/-! ## Two runs -/

theorem distinct_oneCamera : oneCamera.DistinctIds := List.nodup_singleton _

/-- The restart of the camera whose process has exited is finished. -/
def restartedOne : List (GoEvent StreamerInput) :=
  startOne ++ exitOne ++ [stepAt 12800 2 (.result true), stepAt 12800 2 .go]

theorem one_process_for_each_camera_restarted :
    ∃ p, (streamers plainBoard).machine.run (streamersAtRest 1) restartedOne = some p ∧
      p.memory.started = 2 ∧ (∀ camID, (p.memory.aliveFor camID).length ≤ 1) ∧
      RestartsApart p.memory.restarts := by
  have hdistinct : ∀ e ∈ restartedOne, e.input.Distinct := by
    simp [restartedOne, startOne, exitOne, stepAt, StreamerInput.Distinct, distinct_oneCamera]
  have halone : (streamers plainBoard).machine.Along RestartsAlone (streamersAtRest 1)
      restartedOne := by
    decide
  obtain ⟨p, hrun, hstarted⟩ : ∃ p,
      (streamers plainBoard).machine.run (streamersAtRest 1) restartedOne = some p ∧
      p.memory.started = 2 := ⟨_, rfl, rfl⟩
  exact ⟨p, hrun, hstarted, one_process_for_each_camera hdistinct halone hrun⟩

/-- The process exits two seconds before the watchdog looks at the stream. Two goroutines find the
camera not running, and both pass the cooldown. -/
def restartedTwice : List (GoEvent StreamerInput) :=
  startOne ++
  [stepAt 10600 1 .go, stepAt 10600 3 .go, stepAt 10600 2 (.result true), stepAt 10600 2 .go,
    stepAt 12600 1 .fire, stepAt 12600 1 .tick, stepAt 12600 1 .go,
    stepAt 12600 1 (.scan fun _ ↦ true), stepAt 12600 2 .go, stepAt 12600 2 .go,
    stepAt 12600 1 .go, stepAt 12600 2 .go, stepAt 12600 1 .go, stepAt 12600 2 .go,
    stepAt 12600 1 .go, stepAt 12600 2 .go, stepAt 13400 1 (.result true),
    stepAt 13400 3 (.result true)]

theorem two_processes_for_a_camera :
    (∀ e ∈ restartedTwice, e.input.Distinct) ∧
      ∃ p, (streamers plainBoard).machine.run (streamersAtRest 1) restartedTwice = some p ∧
        (p.memory.aliveFor 0).length = 2 ∧ ¬ RestartsApart p.memory.restarts := by
  refine ⟨?_, _, rfl, rfl, ?_⟩
  · simp [restartedTwice, startOne, stepAt, StreamerInput.Distinct, distinct_oneCamera]
  · intro h
    have happart := (List.pairwise_cons.mp h).1 _ List.mem_cons_self rfl
    exact absurd happart (by decide)

end DroneBridge
