import DroneBridge.Config.RoundTrip
import Mathlib.Tactic.NormNum

/-!
# What loading fills in is stable

Loading fills gaps and puts values right, and a save writes out the result. Every default passes the
test that it was given for, and no check looks at what was filled in. So what was loaded once is its
own image under the next load, and however often the file is rewritten, the service sees the same
record. Other readers may not: that is the subject of `DroneBridge.Config.RoundTrip`.
-/

namespace DroneBridge

/-! ## Defaults are fixed points -/

/-- A replacement that does not meet the condition it replaces for is made once. -/
theorem ite_default_idem {α : Type*} (p : α → Prop) [DecidablePred p] {default : α}
    (h : ¬ p default) (a : α) :
    (if p (if p a then default else a) then default else if p a then default else a) =
      if p a then default else a := by
  by_cases ha : p a <;> simp [ha, h]

theorem orDefault_idem {default : String} (h : default ≠ "") (s : String) :
    orDefault default (orDefault default s) = orDefault default s :=
  ite_default_idem (· = "") h s

theorem CameraStreamConfig.normalize_idem (s : CameraStreamConfig) :
    s.normalize.normalize = s.normalize := by
  dsimp only [normalize]
  rw [ite_default_idem (· ≤ 0) (by decide) s.detectFrameSkip,
    ite_default_idem (· ≤ 0) (by decide) s.overlayFrameSkip,
    ite_default_idem (· < 0) (by decide) s.gateTimeoutMs,
    ite_default_idem (·.length < 2) (by decide) s.loresSize,
    ite_default_idem (· ≤ 0) (by norm_num) s.detectionThreshold]

namespace Config

variable {c : Config}

theorem setDefaults_idem : c.setDefaults.setDefaults = c.setDefaults := by
  dsimp only [setDefaults]
  rw [orDefault_idem (by decide) c.log.level, orDefault_idem (by decide) c.ethernet.subnet,
    ite_default_idem (· ≤ 0) (by decide) c.ethernet.pixhawkConnectionTimeout,
    orDefault_idem (by decide) c.cellular.driver, orDefault_idem (by decide) c.cellular.iface,
    orDefault_idem (by decide) c.vpn.configFile,
    ite_default_idem (· = 0) (by decide) c.vpn.vpnPort,
    orDefault_idem (by decide) c.vpn.routerVpnIp]

theorem normalizeCameraConfig_idem :
    c.normalizeCameraConfig.normalizeCameraConfig = c.normalizeCameraConfig := by
  have hstreams : (c.camera.streams.map (·.normalize)).map (·.normalize) =
      c.camera.streams.map (·.normalize) := by
    rw [List.map_map]
    exact List.map_congr_left fun s _ ↦ s.normalize_idem
  dsimp only [normalizeCameraConfig]
  rw [ite_default_idem (· ≤ 0) (by norm_num) c.landing.mavlinkHz,
    ite_default_idem (· ≤ 0) (by norm_num) c.camera.mavlinkStatusHz, hstreams]

theorem setDefaults_normalizeCameraConfig :
    c.normalizeCameraConfig.setDefaults = c.setDefaults.normalizeCameraConfig := rfl

theorem finish_of_finish {c' : Config} (h : c.finish = .ok c') : c'.finish = .ok c' := by
  obtain ⟨hvalid, rfl⟩ := finish_eq_ok.mp h
  refine finish_eq_ok.mpr ⟨hvalid, ?_⟩
  rw [setDefaults_normalizeCameraConfig, setDefaults_idem, normalizeCameraConfig_idem]

end Config

/-! ## Rounds of loading and saving -/

section

variable {text : ℚ → String} {doc : Yaml} {c : Config}

theorem load_save_of_load (h : load text doc = .ok c) : load text (c.save text) = .ok c := by
  obtain ⟨c₀, -, hfinish⟩ := load_eq_ok.mp h
  rw [load_save]
  exact Config.finish_of_finish hfinish

/-- A number of rounds, each a load and a save. -/
def rewrites (text : ℚ → String) : ℕ → Yaml → Except LoadError Yaml
  | 0, doc => .ok doc
  | n + 1, doc => rewrite text doc >>= rewrites text n

/-- **Stable defaults.** After any number of rounds the file is loaded as the same record, and from
the first round on it is the same file. -/
theorem load_after_rewrites (h : load text doc = .ok c) (n : ℕ) :
    ∃ doc', rewrites text n doc = .ok doc' ∧ load text doc' = .ok c ∧
      (0 < n → doc' = c.save text) := by
  induction n generalizing doc with
  | zero => exact ⟨doc, rfl, h, nofun⟩
  | succ n ih =>
    have hround : rewrite text doc = .ok (c.save text) := by
      rw [rewrite, h]
      rfl
    obtain ⟨doc', hdoc', hload, hsave⟩ := ih (load_save_of_load h)
    refine ⟨doc', ?_, hload, fun _ ↦ ?_⟩
    · rw [rewrites, hround]
      exact hdoc'
    · cases n with
      | zero => exact (Except.ok.inj hdoc').symm
      | succ n => exact hsave n.succ_pos

end

/-- A file whose camera has one stream and nothing else. -/
def bareStreamFile : Yaml :=
  .map [("camera", .map [("streams", .seq [.map []])]),
    ("network", .map [("local_listen_port", .int 14550), ("target_host", .str "10.0.0.1"),
      ("target_port", .int 14550)]),
    ("web", .map [("port", .int 8080)])]

theorem load_after_rewrites_bare :
    ∃ c, load toString bareStreamFile = .ok c ∧
      ∀ n, ∃ doc', rewrites toString n bareStreamFile = .ok doc' ∧ load toString doc' = .ok c ∧
        (0 < n → doc' = c.save toString) := by
  have hload : load toString bareStreamFile = .ok _ := rfl
  exact ⟨_, hload, load_after_rewrites hload⟩

end DroneBridge
