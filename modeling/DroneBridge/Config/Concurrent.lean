import DroneBridge.Config.Edits
import DroneBridge.Lib.SharedCell
import Mathlib.Algebra.Order.Field.Rat
import Mathlib.Tactic.NormNum

/-!
# Two edits at the same time

Each request is served by a goroutine of its own, and nothing keeps two of them from loading the
file before either saves it. The edit that saves last then writes back what the other one has
changed. One after the other, the second load may still put right a camera value of the first edit.

An edit is contained in a file when every setting that it has written has the value it has written.
-/

namespace DroneBridge

open SharedCell (start)
open Yaml (Codec)

/-! ## Settings -/

/-- The settings of the section `network` that some edit writes. -/
inductive NetworkField
  | connectionType
  | serialPort
  | serialBaud
  | localListenPort
  | mode
  | cloudWifiFallback
  | fallbackDelay
  deriving DecidableEq, Repr

def NetworkField.key : NetworkField → String
  | connectionType => "connection_type"
  | serialPort => "serial_port"
  | serialBaud => "serial_baud"
  | localListenPort => "local_listen_port"
  | mode => "mode"
  | cloudWifiFallback => "cloud_wifi_fallback"
  | fallbackDelay => "fallback_delay"

def NetworkField.value (c : NetworkConfig) : NetworkField → Yaml
  | connectionType => Codec.string.enc c.connectionType
  | serialPort => Codec.string.enc c.serialPort
  | serialBaud => Codec.int.enc c.serialBaud
  | localListenPort => Codec.int.enc c.localListenPort
  | mode => Codec.string.enc c.mode
  | cloudWifiFallback => Codec.optBool.enc c.cloudWifiFallback
  | fallbackDelay => Codec.int.enc c.fallbackDelay

inductive CameraField
  | primaryCameraId
  | autoMemoryProfile
  deriving DecidableEq, Repr

def CameraField.key : CameraField → String
  | primaryCameraId => "primary_camera_id"
  | autoMemoryProfile => "auto_memory_profile"

def CameraField.value (c : CameraConfig) : CameraField → Yaml
  | primaryCameraId => Codec.int.enc c.primaryCameraId
  | autoMemoryProfile => Codec.bool.enc c.autoMemoryProfile

/-- The settings of a stream that an edit can give. -/
inductive StreamField
  | name
  | enabled
  | format
  | size
  | loresSize
  | framerate
  | bitrate
  | brightness
  | contrast
  | sharpness
  | saturation
  | exposureTime
  | detectionEnabled
  | overlayEnabled
  | overlayBurnEnabled
  | gateTimeoutMs
  | detectFrameSkip
  | overlayFrameSkip
  | landingDetectionMode
  | arucoMarkerId
  | arucoDictionary
  | detectionThreshold
  | landingFullframeFallback
  | keyframeInterval
  | preset
  | tune
  deriving DecidableEq, Repr

namespace StreamField

def key : StreamField → String
  | name => "name"
  | enabled => "enabled"
  | format => "format"
  | size => "size"
  | loresSize => "lores_size"
  | framerate => "framerate"
  | bitrate => "bitrate"
  | brightness => "brightness"
  | contrast => "contrast"
  | sharpness => "sharpness"
  | saturation => "saturation"
  | exposureTime => "exposure_time"
  | detectionEnabled => "detection_enabled"
  | overlayEnabled => "overlay_enabled"
  | overlayBurnEnabled => "overlay_burn_enabled"
  | gateTimeoutMs => "gate_timeout_ms"
  | detectFrameSkip => "detect_frame_skip"
  | overlayFrameSkip => "overlay_frame_skip"
  | landingDetectionMode => "landing_detection_mode"
  | arucoMarkerId => "aruco_marker_id"
  | arucoDictionary => "aruco_dictionary"
  | detectionThreshold => "detection_threshold"
  | landingFullframeFallback => "landing_fullframe_fallback"
  | keyframeInterval => "keyframe_interval"
  | preset => "preset"
  | tune => "tune"

/-- The field as it is written to the file. -/
def value (text : ℚ → String) (s : CameraStreamConfig) : StreamField → Yaml
  | name => Codec.string.enc s.name
  | enabled => Codec.bool.enc s.enabled
  | format => Codec.string.enc s.format
  | size => intList.enc s.size
  | loresSize => intList.enc s.loresSize
  | framerate => Codec.int.enc s.framerate
  | bitrate => Codec.int.enc s.bitrate
  | brightness => (Codec.float text).enc s.brightness
  | contrast => (Codec.float text).enc s.contrast
  | sharpness => (Codec.float text).enc s.sharpness
  | saturation => (Codec.float text).enc s.saturation
  | exposureTime => Codec.int.enc s.exposureTime
  | detectionEnabled => Codec.bool.enc s.detectionEnabled
  | overlayEnabled => Codec.bool.enc s.overlayEnabled
  | overlayBurnEnabled => Codec.optBool.enc s.overlayBurnEnabled
  | gateTimeoutMs => Codec.int.enc s.gateTimeoutMs
  | detectFrameSkip => Codec.int.enc s.detectFrameSkip
  | overlayFrameSkip => Codec.int.enc s.overlayFrameSkip
  | landingDetectionMode => Codec.string.enc s.landingDetectionMode
  | arucoMarkerId => Codec.int.enc s.arucoMarkerId
  | arucoDictionary => Codec.string.enc s.arucoDictionary
  | detectionThreshold => (Codec.float text).enc s.detectionThreshold
  | landingFullframeFallback => Codec.optBool.enc s.landingFullframeFallback
  | keyframeInterval => Codec.int.enc s.keyframeInterval
  | preset => Codec.string.enc s.preset
  | tune => Codec.string.enc s.tune

/-- Whether a request writes the field. The small size and the burned-in overlay are written by
every request. -/
def written (body : Body) (f : StreamField) : Bool :=
  match f with
  | loresSize | overlayBurnEnabled => true
  | name => (stringAt body f.key).any (· ≠ "")
  | size =>
    match body.lookup f.key with
    | some (.arr (_ :: _ :: _)) => true
    | _ => false
  | landingFullframeFallback => (body.lookup f.key).isSome
  | format | landingDetectionMode | arucoDictionary | preset | tune => (stringAt body f.key).isSome
  | enabled | detectionEnabled | overlayEnabled => (boolAt body f.key).isSome
  | framerate | bitrate | brightness | contrast | sharpness | saturation | exposureTime |
      gateTimeoutMs | detectFrameSkip | overlayFrameSkip | arucoMarkerId | detectionThreshold |
      keyframeInterval =>
    (numberAt body f.key).isSome

end StreamField

inductive ConfigSetting
  | network (f : NetworkField)
  | camera (f : CameraField)
  | stream (id : Int64) (f : StreamField)
  deriving DecidableEq, Repr

/-- Whether a tree is the stream of the camera. -/
def hasCameraId (id : Int64) (y : Yaml) : Bool :=
  match y.get? "camera_id" with
  | some (.int n) => n = id.toInt
  | _ => false

def ConfigSetting.read (doc : Yaml) : ConfigSetting → Option Yaml
  | network f => (doc.get? "network").bind (·.get? f.key)
  | camera f => (doc.get? "camera").bind (·.get? f.key)
  | stream id f =>
    match (doc.get? "camera").bind (·.get? "streams") with
    | some (.seq items) => (items.find? (hasCameraId id)).bind (·.get? f.key)
    | _ => none

/-! ## What an edit writes -/

def ModeRequest.writes (r : ModeRequest) : NetworkField → Bool
  | .mode => true
  | .cloudWifiFallback => r.cloudFallback.isSome
  | .fallbackDelay => r.fallbackDelay.any (0 ≤ ·)
  | _ => false

namespace WebEdit

def writes : WebEdit → ConfigSetting → Bool
  | network body, .network f =>
    match f with
    | .connectionType | .serialPort => (stringAt body f.key).isSome
    | .serialBaud | .localListenPort => (numberAt body f.key).isSome
    | _ => false
  | mode body, .network f => (modeRequest body).writes f
  | priority p, .network f => (priorityRequest p).any (·.writes f)
  | switch t, .network f => (switchRequest t).any (·.writes f)
  | cameraStream body, .stream id f => id = streamId body && f.written body
  | cameraGlobal body, .camera f =>
    match f with
    | .primaryCameraId => (intAt body f.key).any fun id ↦ id = 0 || id = 1
    | .autoMemoryProfile => (body.lookup f.key).isSome
  | _, _ => false

/-- A later load leaves the values of the edit as they are. -/
def Kept : WebEdit → Prop
  | cameraStream body =>
    (∀ n ∈ intAt body "gate_timeout_ms", 0 ≤ n) ∧ (∀ n ∈ intAt body "detect_frame_skip", 0 < n) ∧
      (∀ n ∈ intAt body "overlay_frame_skip", 0 < n) ∧
      ∀ q ∈ numberAt body "detection_threshold", 0 < q
  | _ => True

end WebEdit

/-- The file has the values that the edit wrote when it saved `c`. -/
def Contains (text : ℚ → String) (e : WebEdit) (c : Config) (doc : Yaml) : Prop :=
  ∀ t, e.writes t = true → t.read doc = t.read (c.save text)

def DisjointEdits (e₁ e₂ : WebEdit) : Prop := ∀ t, e₁.writes t = true → e₂.writes t = false

section

variable {text : ℚ → String} {F : FloatOps} {c c' : Config} {e₁ e₂ : WebEdit}

/-! ## Settings of a saved record -/

theorem lookup_network (n : NetworkConfig) (f : NetworkField) :
    n.entries.lookup f.key = some (f.value n) := by
  cases f <;> simp [NetworkConfig.entries, NetworkField.key, NetworkField.value, List.lookup_cons]

theorem lookup_camera (n : CameraConfig) (f : CameraField) :
    (n.entries text).lookup f.key = some (f.value n) := by
  cases f <;> simp [CameraConfig.entries, CameraField.key, CameraField.value, List.lookup_cons]

theorem lookup_stream (s : CameraStreamConfig) (f : StreamField) :
    (s.entries text).lookup f.key = some (f.value text s) := by
  cases f <;>
    simp [CameraStreamConfig.entries, StreamField.key, StreamField.value, List.lookup_cons]

theorem read_network_save (f : NetworkField) :
    (ConfigSetting.network f).read (c.save text) = some (f.value c.network) :=
  lookup_network c.network f

theorem read_camera_save (f : CameraField) :
    (ConfigSetting.camera f).read (c.save text) = some (f.value c.camera) :=
  lookup_camera c.camera f

theorem read_stream_save (id : Int64) (f : StreamField) :
    (ConfigSetting.stream id f).read (c.save text) =
      (findStream id c.camera.streams).map (f.value text) := by
  have hid : hasCameraId id ∘ (CameraStreamConfig.codec text).enc =
      fun s : CameraStreamConfig ↦ decide (s.cameraId = id) := by
    funext s
    exact decide_eq_decide.mpr Int64.toInt_inj
  have hget : ∀ s, ((CameraStreamConfig.codec text).enc s).get? f.key = some (f.value text s) :=
    fun s ↦ lookup_stream s f
  have hread : (ConfigSetting.stream id f).read (c.save text) =
      ((c.camera.streams.map (CameraStreamConfig.codec text).enc).find? (hasCameraId id)).bind
        (·.get? f.key) := rfl
  rw [hread, List.find?_map, hid, ← findStream]
  cases findStream id c.camera.streams with
  | none => rfl
  | some s => exact hget s

/-! ## Streams -/

theorem findStream_putStream_self (s : CameraStreamConfig) (streams : List CameraStreamConfig) :
    findStream s.cameraId (putStream s streams) = some s := by
  rw [findStream]
  induction streams with
  | nil => simp [putStream]
  | cons t ts ih =>
    rw [putStream]
    by_cases ht : t.cameraId = s.cameraId
    · simp [ht]
    · simpa [ht] using ih

theorem findStream_putStream_of_ne {s : CameraStreamConfig} {id : Int64} (hid : s.cameraId ≠ id)
    (streams : List CameraStreamConfig) :
    findStream id (putStream s streams) = findStream id streams := by
  rw [findStream, findStream]
  induction streams with
  | nil => simp [putStream, hid]
  | cons t ts ih =>
    rw [putStream]
    by_cases ht : t.cameraId = s.cameraId
    · simp [ht, hid]
    · simp only [ht, if_false, List.find?_cons, ih]

theorem putStream_ne_nil (s : CameraStreamConfig) (streams : List CameraStreamConfig) :
    putStream s streams ≠ [] := by
  cases streams with
  | nil => exact List.cons_ne_nil _ _
  | cons t ts =>
    rw [putStream]
    split <;> exact List.cons_ne_nil _ _

theorem findStream_map_normalize (id : Int64) (streams : List CameraStreamConfig) :
    findStream id (streams.map (·.normalize)) = (findStream id streams).map (·.normalize) :=
  List.find?_map ..

theorem findStream_getD_cameraId (id : Int64) (streams : List CameraStreamConfig) :
    ((findStream id streams).getD (defaultStream id)).cameraId = id := by
  rw [findStream]
  cases hfind : streams.find? (·.cameraId = id) with
  | none => rfl
  | some s => simpa using List.find?_some hfind

theorem cvLoresSizeForMain_length (main : List Int64) :
    2 ≤ (cvLoresSizeForMain F main).length := by
  rcases main with _ | ⟨w, _ | ⟨h, rest⟩⟩
  · exact le_rfl
  · exact le_rfl
  · rw [cvLoresSizeForMain]
    split <;> exact le_rfl

theorem sizeFromMap_length {body : Body} {key : String} {fallback l : List Int64}
    (hfallback : 2 ≤ fallback.length) (h : sizeFromMap body key fallback = some l) :
    2 ≤ l.length := by
  rw [sizeFromMap] at h
  split at h
  · split at h
    · obtain rfl := Option.some.inj h
      exact le_rfl
    · exact nomatch h
  · obtain rfl := Option.some.inj h
    exact hfallback

/-- The fields that a load may put right, in a stream that an edit has written. -/
theorem updateStream_spec {body : Body} {s s' : CameraStreamConfig}
    (h : updateStream F body s = some s') :
    s'.cameraId = s.cameraId ∧ 2 ≤ s'.loresSize.length ∧
      s'.gateTimeoutMs = intFromMap body "gate_timeout_ms" s.gateTimeoutMs ∧
      s'.detectFrameSkip = intFromMap body "detect_frame_skip" s.detectFrameSkip ∧
      s'.overlayFrameSkip = intFromMap body "overlay_frame_skip" s.overlayFrameSkip ∧
      s'.detectionThreshold = floatFromMap body "detection_threshold" s.detectionThreshold := by
  rw [updateStream] at h
  obtain ⟨size, -, h⟩ := Option.bind_eq_some_iff.mp h
  obtain ⟨lores, hlores, h⟩ := Option.bind_eq_some_iff.mp h
  obtain rfl := Option.some.inj h
  exact ⟨rfl, sizeFromMap_length (cvLoresSizeForMain_length size) hlores, rfl, rfl, rfl, rfl⟩

/-! ## What a load leaves as it is -/

/-- A load keeps the field of the stream. -/
def StreamField.Stable (s : CameraStreamConfig) : StreamField → Prop
  | .detectFrameSkip => ¬ s.detectFrameSkip ≤ 0
  | .overlayFrameSkip => ¬ s.overlayFrameSkip ≤ 0
  | .gateTimeoutMs => ¬ s.gateTimeoutMs < 0
  | .loresSize => ¬ s.loresSize.length < 2
  | .detectionThreshold => ¬ s.detectionThreshold ≤ 0
  | _ => True

theorem value_normalize_iff (s : CameraStreamConfig) (f : StreamField) :
    f.value text s.normalize = f.value text s ↔ f.Stable s := by
  cases f with
  | detectFrameSkip =>
    refine Yaml.Codec.int.enc_ite_eq_iff fun hp heq ↦ ?_
    rw [← heq] at hp
    exact absurd hp (by decide)
  | overlayFrameSkip =>
    refine Yaml.Codec.int.enc_ite_eq_iff fun hp heq ↦ ?_
    rw [← heq] at hp
    exact absurd hp (by decide)
  | gateTimeoutMs =>
    refine Yaml.Codec.int.enc_ite_eq_iff fun hp heq ↦ ?_
    rw [← heq] at hp
    exact absurd hp (by decide)
  | loresSize =>
    refine intList.enc_ite_eq_iff fun hp heq ↦ ?_
    rw [← heq] at hp
    exact absurd hp (by decide)
  | detectionThreshold =>
    refine (Yaml.Codec.float text).enc_ite_eq_iff fun hp heq ↦ ?_
    rw [← heq] at hp
    norm_num at hp
  | _ => exact iff_of_true rfl trivial

theorem forall_intAt_iff {P : Int64 → Prop} {body : Body} {key : String} {fallback : Int64} :
    ((numberAt body key).isSome = true → P (intFromMap body key fallback)) ↔
      ∀ n ∈ intAt body key, P n := by
  rw [intFromMap, intAt]
  cases numberAt body key <;> simp

theorem forall_numberAt_iff {P : ℚ → Prop} {body : Body} {key : String} {fallback : ℚ} :
    ((numberAt body key).isSome = true → P (floatFromMap body key fallback)) ↔
      ∀ q ∈ numberAt body key, P q := by
  rw [floatFromMap]
  cases numberAt body key <;> simp

/-- The fields that a request has written are kept exactly when the request asks for it. -/
theorem stable_iff_kept {body : Body} {s s' : CameraStreamConfig}
    (h : updateStream F body s = some s') :
    (∀ f, StreamField.written body f = true → f.Stable s') ↔ (WebEdit.cameraStream body).Kept := by
  obtain ⟨-, hlores, hgate, hdetect, hoverlay, hthreshold⟩ := updateStream_spec h
  have hsplit : (∀ f, StreamField.written body f = true → f.Stable s') ↔
      (StreamField.written body .gateTimeoutMs = true → ¬ s'.gateTimeoutMs < 0) ∧
      (StreamField.written body .detectFrameSkip = true → ¬ s'.detectFrameSkip ≤ 0) ∧
      (StreamField.written body .overlayFrameSkip = true → ¬ s'.overlayFrameSkip ≤ 0) ∧
      (StreamField.written body .detectionThreshold = true → ¬ s'.detectionThreshold ≤ 0) := by
    constructor
    · intro hall
      exact ⟨hall .gateTimeoutMs, hall .detectFrameSkip, hall .overlayFrameSkip,
        hall .detectionThreshold⟩
    · rintro ⟨h₁, h₂, h₃, h₄⟩ f hf
      cases f with
      | gateTimeoutMs => exact h₁ hf
      | detectFrameSkip => exact h₂ hf
      | overlayFrameSkip => exact h₃ hf
      | detectionThreshold => exact h₄ hf
      | loresSize => exact Nat.not_lt.mpr hlores
      | _ => trivial
  rw [hsplit, hgate, hdetect, hoverlay, hthreshold]
  simp only [Int64.not_lt, Int64.not_le, not_le]
  exact and_congr forall_intAt_iff
    (and_congr forall_intAt_iff (and_congr forall_intAt_iff forall_numberAt_iff))

/-! ## What the camera edits fill in -/

theorem prepare_network (e : WebEdit) : (e.prepare c).network = c.network := by
  cases e <;> rfl

theorem prepare_autoMemoryProfile (e : WebEdit) :
    (e.prepare c).camera.autoMemoryProfile = c.camera.autoMemoryProfile := by
  cases e <;> rfl

theorem prepare_primaryCameraId (e : WebEdit)
    (h : c.camera.primaryCameraId = 0 ∨ c.camera.primaryCameraId = 1) :
    (e.prepare c).camera.primaryCameraId = c.camera.primaryCameraId := by
  have hid : ¬ (c.camera.primaryCameraId ≠ 0 ∧ c.camera.primaryCameraId ≠ 1) := by tauto
  cases e with
  | cameraStream body => exact if_neg hid
  | cameraGlobal body => exact if_neg hid
  | _ => rfl

theorem prepare_streams (e : WebEdit) (h : c.camera.streams ≠ []) :
    (e.prepare c).camera.streams = c.camera.streams := by
  have hkeep : c.camera.ensureDefaultStreams.streams = c.camera.streams := by
    dsimp only [CameraConfig.ensureDefaultStreams]
    split
    next hnil => exact absurd hnil h
    next => rfl
  cases e with
  | cameraStream body => exact hkeep
  | cameraGlobal body => exact hkeep
  | _ => rfl

/-! ## What another edit leaves as it is -/

theorem updateNetwork_frame {body : Body} {f : NetworkField}
    (hf : (WebEdit.network body).writes (.network f) = false) :
    f.value (updateNetwork body c).network = f.value c.network := by
  cases f with
  | connectionType | serialPort =>
    have hnone := Option.isSome_eq_false_iff.mp hf
    simp_all [NetworkField.value, NetworkField.key, updateNetwork, stringFromMap]
  | serialBaud | localListenPort =>
    have hnone := Option.isSome_eq_false_iff.mp hf
    simp_all [NetworkField.value, NetworkField.key, updateNetwork, intFromMap, intAt]
  | _ => rfl

theorem applyNetworkMode_frame {r : ModeRequest} {f : NetworkField} (hf : r.writes f = false)
    (h : applyNetworkMode r c = some c') : f.value c'.network = f.value c.network := by
  obtain ⟨-, h⟩ := Option.ite_none_right_eq_some.mp h
  obtain rfl := Option.some.inj h
  cases f with
  | mode => exact nomatch hf
  | cloudWifiFallback =>
    have hnone : r.cloudFallback = none := by simpa [ModeRequest.writes] using hf
    simp [NetworkField.value, hnone]
  | fallbackDelay =>
    cases hdelay : r.fallbackDelay with
    | none => rfl
    | some d =>
      have hneg : ¬ 0 ≤ d := by simpa [ModeRequest.writes, hdelay] using hf
      simp [NetworkField.value, hneg]
  | _ => rfl

/-- Settings outside the section `network` depend on the camera alone. -/
theorem read_save_congr {t : ConfigSetting} (hcamera : c'.camera = c.camera)
    (hnetwork : ∀ f, t = .network f → f.value c'.network = f.value c.network) :
    t.read (c'.save text) = t.read (c.save text) := by
  cases t with
  | network f => rw [read_network_save, read_network_save, hnetwork f rfl]
  | camera f => rw [read_camera_save, read_camera_save, hcamera]
  | stream id f => rw [read_stream_save, read_stream_save, hcamera]

theorem applyNetworkMode_read {r : ModeRequest} {t : ConfigSetting}
    (ht : ∀ f, t = .network f → r.writes f = false) (h : applyNetworkMode r c = some c') :
    t.read (c'.save text) = t.read (c.save text) := by
  refine read_save_congr ?_ fun f hf ↦ applyNetworkMode_frame (ht f hf) h
  obtain ⟨-, h⟩ := Option.ite_none_right_eq_some.mp h
  obtain rfl := Option.some.inj h
  rfl

theorem bind_applyNetworkMode_read {request : Option ModeRequest} {t : ConfigSetting}
    (ht : ∀ f, t = .network f → request.any (·.writes f) = false)
    (h : request.bind (applyNetworkMode · c) = some c') :
    t.read (c'.save text) = t.read (c.save text) := by
  obtain ⟨r, rfl, hr⟩ := Option.bind_eq_some_iff.mp h
  exact applyNetworkMode_read ht hr

/-- Only saves of a stream write settings of a stream, and they all write its small size. -/
theorem writes_loresSize {e : WebEdit} {id : Int64} {f : StreamField}
    (h : e.writes (.stream id f) = true) : e.writes (.stream id .loresSize) = true := by
  cases e with
  | cameraStream body =>
    obtain ⟨hid, -⟩ := (Bool.and_eq_true_iff).mp h
    exact Bool.and_eq_true_iff.mpr ⟨hid, rfl⟩
  | _ => exact nomatch h

theorem saveCameraStream_spec {body : Body} (h : saveCameraStream F body c = some c') :
    ∃ s s', updateStream F body s = some s' ∧ s'.cameraId = streamId body ∧
      c' = { c with camera.streams := putStream s' c.camera.streams } := by
  obtain ⟨s', hs', rfl⟩ := saveCameraStream_eq_some.mp h
  refine ⟨_, s', hs', ?_, rfl⟩
  rw [(updateStream_spec hs').1, findStream_getD_cameraId]

theorem saveCameraStream_read {body : Body} {t : ConfigSetting}
    (ht : ∀ f, t ≠ .stream (streamId body) f) (h : saveCameraStream F body c = some c') :
    t.read (c'.save text) = t.read (c.save text) := by
  obtain ⟨s, s', -, hid, rfl⟩ := saveCameraStream_spec h
  cases t with
  | network f => rw [read_network_save, read_network_save]
  | camera f =>
    rw [read_camera_save, read_camera_save]
    cases f <;> rfl
  | stream id f =>
    have hne : s'.cameraId ≠ id := by
      rintro rfl
      exact ht f (by rw [hid])
    rw [read_stream_save, read_stream_save, findStream_putStream_of_ne hne]

theorem writes_primaryCameraId_iff {body : Body} :
    (WebEdit.cameraGlobal body).writes (.camera .primaryCameraId) = true ↔
      ∃ id, intAt body "primary_camera_id" = some id ∧ (id = 0 ∨ id = 1) := by
  dsimp only [WebEdit.writes, CameraField.key]
  cases intAt body "primary_camera_id" <;> simp

theorem saveCameraGlobal_read {body : Body} {t : ConfigSetting}
    (ht : (WebEdit.cameraGlobal body).writes t = false) :
    t.read ((saveCameraGlobal body c).save text) = t.read (c.save text) := by
  cases t with
  | network f => rw [read_network_save, read_network_save]; rfl
  | stream id f => rw [read_stream_save, read_stream_save]; rfl
  | camera f =>
    rw [read_camera_save, read_camera_save]
    cases f with
    | primaryCameraId =>
      rw [← Bool.not_eq_true, writes_primaryCameraId_iff] at ht
      obtain hgiven | ⟨id, hgiven⟩ := Option.eq_none_or_eq_some (intAt body "primary_camera_id")
      · simp [CameraField.value, saveCameraGlobal, intFromMap, hgiven]
      · have hid : ¬ (id = 0 ∨ id = 1) := fun hid ↦ ht ⟨id, hgiven, hid⟩
        simp [CameraField.value, saveCameraGlobal, intFromMap, hgiven, hid]
    | autoMemoryProfile =>
      have hnone : (body.lookup "auto_memory_profile").isSome = false := ht
      simp [CameraField.value, saveCameraGlobal, hnone]

/-- An edit leaves alone what an edit with other settings writes. -/
theorem change_frame (hdisj : DisjointEdits e₁ e₂) {t : ConfigSetting}
    (ht : e₁.writes t = true) (h : e₂.change F c = some c') :
    t.read (c'.save text) = t.read (c.save text) := by
  have hnot := hdisj t ht
  cases e₂ with
  | network body =>
    obtain rfl := Option.some.inj h
    refine read_save_congr rfl ?_
    rintro f rfl
    exact updateNetwork_frame hnot
  | mode body =>
    refine applyNetworkMode_read ?_ h
    rintro f rfl
    exact hnot
  | priority p =>
    have hr : (priorityRequest p).bind (applyNetworkMode · c) = some c' := h
    refine bind_applyNetworkMode_read ?_ hr
    rintro f rfl
    exact hnot
  | switch w =>
    have hr : (switchRequest w).bind (applyNetworkMode · c) = some c' := h
    refine bind_applyNetworkMode_read ?_ hr
    rintro f rfl
    exact hnot
  | cameraStream body =>
    refine saveCameraStream_read ?_ h
    rintro f rfl
    -- Two saves of one stream are not disjoint.
    have hlores := hdisj _ (writes_loresSize ht)
    simp [WebEdit.writes, StreamField.written] at hlores
  | cameraGlobal body =>
    obtain rfl := Option.some.inj h
    exact saveCameraGlobal_read hnot

/-! ## One edit after the other -/

/-- The record that the next load makes of a saved one. -/
def Config.reloaded (c : Config) : Config := c.setDefaults.normalizeCameraConfig

/-- An edit of the section `network` alone is in every record with the same section. -/
theorem contains_of_network {e : WebEdit} (hnetwork : c.network = c'.network)
    (he : ∀ t, e.writes t = true → ∃ f, t = .network f) : Contains text e c' (c.save text) := by
  intro t ht
  obtain ⟨f, rfl⟩ := he t ht
  rw [read_network_save, read_network_save, hnetwork]

theorem contains_reloaded_stream {body : Body} (h : saveCameraStream F body c = some c')
    (e : WebEdit) :
    Contains text (.cameraStream body) c' ((e.prepare c'.reloaded).save text) ↔
      (WebEdit.cameraStream body).Kept := by
  obtain ⟨s, s', hs', hid, rfl⟩ := saveCameraStream_spec h
  have hsaved : findStream (streamId body) (putStream s' c.camera.streams) = some s' := by
    rw [← hid]
    exact findStream_putStream_self s' c.camera.streams
  -- The streams of the reloaded record are the saved ones, put right one by one.
  have hstreams : ∀ c₁ : Config, c₁.camera.streams ≠ [] →
      (e.prepare c₁.reloaded).camera.streams = c₁.camera.streams.map (·.normalize) := by
    intro c₁ hne
    refine prepare_streams e ?_
    exact fun hnil ↦ hne (List.map_eq_nil_iff.mp hnil)
  rw [← stable_iff_kept hs']
  have hfield : ∀ f : StreamField, (ConfigSetting.stream (streamId body) f).read
      ((e.prepare
        { c with camera.streams := putStream s' c.camera.streams }.reloaded).save text) =
      (ConfigSetting.stream (streamId body) f).read
        ({ c with camera.streams := putStream s' c.camera.streams }.save text) ↔ f.Stable s' := by
    intro f
    rw [read_stream_save, read_stream_save, hstreams _ (putStream_ne_nil s' c.camera.streams),
      findStream_map_normalize, hsaved, Option.map_some, Option.map_some, Option.map_some,
      Option.some.injEq]
    exact value_normalize_iff s' f
  constructor
  · intro hcontains f hf
    apply (hfield f).mp
    apply hcontains
    simpa [WebEdit.writes] using hf
  · intro hstable t ht
    cases t with
    | stream id f =>
      obtain ⟨rfl, hf⟩ : id = streamId body ∧ f.written body = true := by
        simpa [WebEdit.writes] using ht
      exact (hfield f).mpr (hstable f hf)
    | _ => exact nomatch ht

theorem contains_reloaded_global (body : Body) (e : WebEdit) :
    Contains text (.cameraGlobal body) (saveCameraGlobal body c)
      ((e.prepare (saveCameraGlobal body c).reloaded).save text) := by
  intro t ht
  cases t with
  | camera f =>
    rw [read_camera_save, read_camera_save]
    cases f with
    | primaryCameraId =>
      obtain ⟨id, hgiven, hid⟩ := writes_primaryCameraId_iff.mp ht
      have hsaved : (saveCameraGlobal body c).camera.primaryCameraId = id := by
        simp [saveCameraGlobal, intFromMap, hgiven, hid]
      have hreloaded : (saveCameraGlobal body c).reloaded.camera.primaryCameraId = 0 ∨
          (saveCameraGlobal body c).reloaded.camera.primaryCameraId = 1 := hsaved.symm ▸ hid
      rw [CameraField.value, CameraField.value, prepare_primaryCameraId e hreloaded]
      rfl
    | autoMemoryProfile =>
      rw [CameraField.value, CameraField.value, prepare_autoMemoryProfile]
      rfl
  | _ => exact nomatch ht

/-- A reload contains an edit exactly when it leaves the values of the edit as they are. -/
theorem contains_reloaded_iff (h : e₁.change F c = some c') (e₂ : WebEdit) :
    Contains text e₁ c' ((e₂.prepare c'.reloaded).save text) ↔ e₁.Kept := by
  have hnetwork : (e₂.prepare c'.reloaded).network = c'.network := prepare_network e₂
  cases e₁ with
  | cameraStream body => exact contains_reloaded_stream h e₂
  | cameraGlobal body =>
    obtain rfl := Option.some.inj h
    exact iff_of_true (contains_reloaded_global body e₂) trivial
  | _ =>
    refine iff_of_true (contains_of_network hnetwork fun t ht ↦ ?_) trivial
    cases t with
    | network f => exact ⟨f, rfl⟩
    | _ => exact nomatch ht

end

/-! ## Both edits -/

/-- The file as two edits share it. -/
def editCell (text : ℚ → String) (F : FloatOps) (edits : Bool → WebEdit) :
    SharedCell Bool Yaml Config where
  load doc := (load text doc).toOption
  save c := c.save text
  edit i := (edits i).apply F

section

variable {text : ℚ → String} {F : FloatOps} {edits : Bool → WebEdit} {doc : Yaml} {c c' : Config}

theorem editCell_load_save (h : (editCell text F edits).load (c.save text) = some c') :
    c' = c.reloaded := by
  dsimp only [editCell] at h
  rw [load_save] at h
  cases hfinish : c.finish with
  | error _ => rw [hfinish] at h; exact nomatch h
  | ok c₁ =>
    rw [hfinish] at h
    obtain rfl := Option.some.inj h
    exact (Config.finish_eq_ok.mp hfinish).2

/-- **Two edits of different settings.** Both are in the file at the end exactly if the later one
had loaded the earlier one's version and loading keeps its values, or what it had loaded happened to
have them. Strings are taken to survive the text of the file (see `Config.save`). -/
theorem both_edits_contained_iff {es : List (SharedCell.Event Bool)}
    {s : SharedCell.Run Bool Yaml Config} {base version : Bool → ℕ} {r r' : Bool → Config}
    (hdisj : ∀ i, DisjointEdits (edits i) (edits (!i)))
    (hrun : (editCell text F edits).machine.run (start doc) es = some s)
    (hdone : ∀ i, s.client i = .saved (base i) (r i) (r' i) (version i)) :
    (∀ i, Contains text (edits i) (r' i) s.cell) ↔
      ∀ i, version i < version (!i) →
        if base (!i) = version i then (edits i).Kept
        else Contains text (edits i) (r' i) (((edits (!i)).prepare (r (!i))).save text) := by
  have hs := SharedCell.Inv.of_run hrun
  have hedit : ∀ i, (edits i).change F ((edits i).prepare (r i)) = some (r' i) := hs.edit_eq hdone
  -- For the edit that saves first: what the other one had loaded decides.
  have hfirst : ∀ i, version i < version (!i) →
      ((∀ j, Contains text (edits j) (r' j) s.cell) ↔
        if base (!i) = version i then (edits i).Kept
        else Contains text (edits i) (r' i) (((edits (!i)).prepare (r (!i))).save text)) := by
    intro i hlt
    obtain ⟨hcell, -, hload⟩ := hs.pair hdone hlt
    have hcell : s.cell = (r' (!i)).save text := hcell
    have hboth : (∀ j, Contains text (edits j) (r' j) s.cell) ↔
        Contains text (edits i) (r' i) (((edits (!i)).prepare (r (!i))).save text) := by
      rw [hcell]
      have hframe : ∀ t, (edits i).writes t = true → t.read ((r' (!i)).save text) =
          t.read (((edits (!i)).prepare (r (!i))).save text) :=
        fun t ht ↦ change_frame (hdisj i) ht (hedit (!i))
      constructor
      · intro hall t ht
        rw [← hframe t ht]
        exact hall i t ht
      · intro hloaded j t ht
        obtain rfl | hne := eq_or_ne j i
        · rw [hframe t ht]
          exact hloaded t ht
        · obtain rfl := Bool.eq_not_of_ne hne
          rfl
    rw [hboth]
    obtain ⟨hbase, hload⟩ | ⟨hbase, -⟩ := hload
    · rw [if_pos hbase, editCell_load_save hload]
      exact contains_reloaded_iff (hedit i) (edits (!i))
    · rw [if_neg hbase]
  constructor
  · intro hall i hlt
    exact (hfirst i hlt).mp hall
  · intro hcond
    obtain hlt | hlt := Nat.lt_or_gt_of_ne (hs.version_ne hdone true)
    · exact (hfirst true hlt).mpr (hcond true hlt)
    · exact (hfirst false hlt).mpr (hcond false hlt)

end

/-- A change of the mode and a save of a camera stream. -/
def modeAndStream : Bool → WebEdit
  | true => .mode [("mode", .str "wifi_only")]
  | false => .cameraStream [("camera_id", .num 0), ("framerate", .num 15)]

theorem modeAndStream_disjoint (i : Bool) :
    DisjointEdits (modeAndStream i) (modeAndStream (!i)) := by
  intro t ht
  cases i <;> cases t with
  | network f => first | rfl | exact nomatch ht
  | camera f => rfl
  | stream id f => first | rfl | exact nomatch ht

/-- Both edits load the file before either saves it, and both report success. The file does not have
the new mode at the end. -/
theorem mode_lost_by_stream_save :
    (∀ i, DisjointEdits (modeAndStream i) (modeAndStream (!i))) ∧
      ∃ s r r' q q', (editCell toString .exact modeAndStream).machine.run (start minimalFile)
          [.load true, .load false, .save true, .save false] = some s ∧
        s.client true = .saved 0 r r' 1 ∧ s.client false = .saved 0 q q' 2 ∧
        (ConfigSetting.network .mode).read (r'.save toString) = some (.str "wifi_only") ∧
        (ConfigSetting.network .mode).read s.cell = some (.str "") ∧
        ¬ Contains toString (modeAndStream true) r' s.cell := by
  have hrun : (editCell toString .exact modeAndStream).machine.run (start minimalFile)
      [.load true, .load false, .save true, .save false] = some _ := rfl
  refine ⟨modeAndStream_disjoint, _, _, _, _, _, hrun, rfl, rfl, rfl, rfl, fun hcontains ↦ ?_⟩
  have hmode : some (Yaml.str "") = some (Yaml.str "wifi_only") := hcontains (.network .mode) rfl
  simp at hmode

/-- The same edits one after the other. -/
theorem both_edits_contained_serial :
    ∃ s r r' q q', (editCell toString .exact modeAndStream).machine.run (start minimalFile)
        [.load true, .save true, .load false, .save false] = some s ∧
      s.client true = .saved 0 r r' 1 ∧ s.client false = .saved 1 q q' 2 ∧
      ∀ i, Contains toString (modeAndStream i) (bif i then r' else q') s.cell := by
  obtain ⟨s, r, r', q, q', hrun, htrue, hfalse⟩ : ∃ s r r' q q',
      (editCell toString .exact modeAndStream).machine.run (start minimalFile)
        [.load true, .save true, .load false, .save false] = some s ∧
      s.client true = .saved 0 r r' 1 ∧ s.client false = .saved 1 q q' 2 :=
    ⟨_, _, _, _, _, rfl, rfl, rfl⟩
  have hdone : ∀ i, s.client i = .saved (bif i then 0 else 1) (bif i then r else q)
      (bif i then r' else q') (bif i then 1 else 2) := Bool.forall_bool.mpr ⟨hfalse, htrue⟩
  refine ⟨s, r, r', q, q', hrun, htrue, hfalse,
    (both_edits_contained_iff modeAndStream_disjoint hrun hdone).mpr ?_⟩
  refine Bool.forall_bool.mpr ⟨fun hlt ↦ absurd hlt (by decide), fun _ ↦ ?_⟩
  exact (if_pos rfl).mpr trivial

end DroneBridge
