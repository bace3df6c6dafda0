import DroneBridge.Lib.Machine
import DroneBridge.Netmon.Readers

/-!
# A save while the monitor reads

A save truncates the file and then writes all of it. The monitor reads each setting by opening the
file again, so a cycle may read some settings before the save, some after it and some in between.
In between the file is empty, and an empty file has a value for every setting: the default. The
monitor cannot tell that value from one that somebody has chosen.
-/

namespace DroneBridge

inductive SavePc
  | before
  | truncated
  | written
  deriving DecidableEq, Repr

structure SaveRun where
  file : Text
  save : SavePc
  /-- What the monitor has read, newest first. -/
  log : List (Setting × SettingValue)
  /-- Ghost: the settings read while the file was truncated. -/
  gap : List Setting

inductive SaveEvent
  | truncate
  | write
  | read (setting : Setting)
  deriving DecidableEq, Repr

def SaveRun.start (old : Text) : SaveRun := ⟨old, .before, [], []⟩

/-- A save of `new`, and reads of the monitor between its steps. -/
def saveMachine (env : NetmonEnv) (new : Text) : Machine SaveRun SaveEvent where
  step s
    | .truncate => if s.save = .before then some { s with file := [], save := .truncated } else none
    | .write => if s.save = .truncated then some { s with file := new, save := .written } else none
    | .read k =>
      some { s with
        log := (k, loadSetting env [s.file] k) :: s.log
        gap := if s.save = .truncated then k :: s.gap else s.gap }

def SavePc.file (old new : Text) : SavePc → Text
  | .before => old
  | .truncated => []
  | .written => new

/-- The value is that of the old file or that of the new one. -/
def OldOrNew (env : NetmonEnv) (old new : Text) (k : Setting) (v : SettingValue) : Prop :=
  v = loadSetting env [old] k ∨ v = loadSetting env [new] k

/-- What is read is the old value, the new one or, in the gap, the default. -/
structure SaveRun.Inv (env : NetmonEnv) (old new : Text) (s : SaveRun) : Prop where
  file : s.file = s.save.file old new
  log : ∀ e ∈ s.log, OldOrNew env old new e.1 e.2 ∨
    (e.1 ∈ s.gap ∧ e.2 = defaultSetting env e.1)
  gap : ∀ k ∈ s.gap, (k, defaultSetting env k) ∈ s.log

namespace SaveRun.Inv

variable {env : NetmonEnv} {old new : Text} {s s' : SaveRun}

theorem start : (SaveRun.start old).Inv env old new where
  file := rfl
  log _ he := absurd he List.not_mem_nil
  gap _ hk := absurd hk List.not_mem_nil

theorem read_truncated (hs : s.Inv env old new) (htrunc : s.save = .truncated) (k : Setting) :
    SaveRun.Inv env old new { s with
      log := (k, loadSetting env [s.file] k) :: s.log
      gap := k :: s.gap } := by
  have hvalue : loadSetting env [s.file] k = defaultSetting env k := by
    rw [hs.file, htrunc]
    exact loadSetting_empty env k
  refine ⟨hs.file, fun e he ↦ ?_, fun j hj ↦ ?_⟩
  · obtain rfl | he := List.mem_cons.mp he
    · exact .inr ⟨List.mem_cons_self, hvalue⟩
    · apply (hs.log e he).imp_right
      rintro ⟨hgap, hdefault⟩
      exact ⟨List.mem_cons_of_mem k hgap, hdefault⟩
  · obtain rfl | hj := List.mem_cons.mp hj
    · dsimp only
      rw [hvalue]
      exact List.mem_cons_self
    · exact List.mem_cons_of_mem _ (hs.gap j hj)

theorem read_whole (hs : s.Inv env old new) (hwhole : s.save ≠ .truncated) (k : Setting) :
    SaveRun.Inv env old new { s with log := (k, loadSetting env [s.file] k) :: s.log } := by
  refine ⟨hs.file, fun e he ↦ ?_, fun j hj ↦ List.mem_cons_of_mem _ (hs.gap j hj)⟩
  obtain rfl | he := List.mem_cons.mp he
  · left
    dsimp only
    rw [hs.file]
    cases hsave : s.save with
    | before => exact .inl rfl
    | truncated => exact absurd hsave hwhole
    | written => exact .inr rfl
  · exact hs.log e he

theorem step (hs : s.Inv env old new) {e : SaveEvent}
    (h : (saveMachine env new).step s e = some s') : s'.Inv env old new := by
  cases e with
  | truncate =>
    obtain ⟨-, h⟩ := Option.ite_none_right_eq_some.mp h
    obtain rfl := Option.some.inj h
    exact ⟨rfl, hs.log, hs.gap⟩
  | write =>
    obtain ⟨-, h⟩ := Option.ite_none_right_eq_some.mp h
    obtain rfl := Option.some.inj h
    exact ⟨rfl, hs.log, hs.gap⟩
  | read k =>
    obtain rfl := Option.some.inj h
    by_cases htrunc : s.save = .truncated
    · rw [if_pos htrunc]
      exact hs.read_truncated htrunc k
    · rw [if_neg htrunc]
      exact hs.read_whole htrunc k

theorem of_run {es : List SaveEvent}
    (hrun : (saveMachine env new).run (.start old) es = some s) : s.Inv env old new :=
  Machine.invariant (fun _ _ _ hs h ↦ hs.step h) .start hrun

end SaveRun.Inv

/-- **Reads during a save.** Every value read is that of the old file or of the new one if and only
if this is so of the default of every setting read while the file was truncated. -/
theorem reads_old_or_new_iff {env : NetmonEnv} {old new : Text} {es : List SaveEvent} {s : SaveRun}
    (hrun : (saveMachine env new).run (.start old) es = some s) :
    (∀ e ∈ s.log, OldOrNew env old new e.1 e.2) ↔
      ∀ k ∈ s.gap, OldOrNew env old new k (defaultSetting env k) := by
  have hs := SaveRun.Inv.of_run hrun
  constructor
  · intro hlog k hk
    exact hlog _ (hs.gap k hk)
  · intro hgap e he
    obtain hvalue | ⟨hk, hdefault⟩ := hs.log e he
    · exact hvalue
    · rw [hdefault]
      exact hgap e.1 hk

/-- A section `network` with the given settings, as a save writes it. -/
def networkText (mode delay cloud : String) : Text :=
  ("network:\n    mode: " ++ mode ++ "\n    cloud_wifi_fallback: " ++ cloud ++
    "\n    fallback_delay: " ++ delay ++ "\n").toList

/-- The old and the new file both say `wifi_only`, no fallback and a short delay. A cycle that falls
into the gap reads the defaults instead. -/
theorem defaults_read_in_gap :
    ∃ s, (saveMachine {} (networkText "wifi_only" "90" "false")).run
        (.start (networkText "wifi_only" "60" "false"))
        [.truncate, .read .mode, .read .fallbackDelay, .read .cloudWifiFallback, .write] = some s ∧
      s.log = [(.cloudWifiFallback, .cloudWifiFallback true), (.fallbackDelay, .fallbackDelay 300),
        (.mode, .mode "prefer_4g")] ∧
      loadSetting {} [networkText "wifi_only" "60" "false"] .mode = .mode "wifi_only" ∧
      loadSetting {} [networkText "wifi_only" "90" "false"] .mode = .mode "wifi_only" ∧
      ¬ ∀ e ∈ s.log, OldOrNew {} (networkText "wifi_only" "60" "false")
        (networkText "wifi_only" "90" "false") e.1 e.2 := by
  have hold : loadSetting {} [networkText "wifi_only" "60" "false"] .mode = .mode "wifi_only" := by
    decide +kernel
  have hnew : loadSetting {} [networkText "wifi_only" "90" "false"] .mode = .mode "wifi_only" := by
    decide +kernel
  have hrun : (saveMachine {} (networkText "wifi_only" "90" "false")).run
      (.start (networkText "wifi_only" "60" "false"))
      [.truncate, .read .mode, .read .fallbackDelay, .read .cloudWifiFallback, .write] =
      some _ := rfl
  refine ⟨_, hrun, by decide +kernel, hold, hnew, fun hlog ↦ ?_⟩
  have hmode := hlog (.mode, .mode "prefer_4g") (by decide +kernel)
  rw [OldOrNew, hold, hnew] at hmode
  exact absurd hmode (by decide)

/-- A cycle whose reads miss the gap. -/
theorem reads_old_or_new_around :
    ∃ s, (saveMachine {} (networkText "wifi_only" "90" "false")).run
        (.start (networkText "4g_only" "60" "true"))
        [.read .mode, .truncate, .write, .read .fallbackDelay, .read .cloudWifiFallback] = some s ∧
      ∀ e ∈ s.log, OldOrNew {} (networkText "4g_only" "60" "true")
        (networkText "wifi_only" "90" "false") e.1 e.2 := by
  have hrun : (saveMachine {} (networkText "wifi_only" "90" "false")).run
      (.start (networkText "4g_only" "60" "true"))
      [.read .mode, .truncate, .write, .read .fallbackDelay, .read .cloudWifiFallback] =
      some _ := rfl
  exact ⟨_, hrun, (reads_old_or_new_iff hrun).mpr fun _ hk ↦ absurd hk List.not_mem_nil⟩

end DroneBridge
