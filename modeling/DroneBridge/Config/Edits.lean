import DroneBridge.Config.Load

/-!
# Edits of the configuration from the web page

Every edit loads the whole file, changes some fields and saves the whole record. The bodies of the
requests are arbitrary JSON objects. A value of the wrong type counts as missing, and numbers are
cut to integers. The record is checked when it is loaded and not when it is saved, so an edit can
save a record that no later load accepts.
-/

namespace DroneBridge

/-! ## Bodies of requests -/

inductive Json
  | null
  | bool (b : Bool)
  | num (q : ℚ)
  | str (s : String)
  | arr (items : List Json)
  | obj (entries : List (String × Json))
  deriving Repr

/-- The decoded object of a request; a body `null` has no entries. -/
abbrev Body := List (String × Json)

def numberAt (m : Body) (key : String) : Option ℚ :=
  match m.lookup key with
  | some (.num q) => some q
  | _ => none

/-- The entry, if it is a number, cut to an integer. -/
def intAt (m : Body) (key : String) : Option Int64 := (numberAt m key).map .ofRat

def stringAt (m : Body) (key : String) : Option String :=
  match m.lookup key with
  | some (.str s) => some s
  | _ => none

def boolAt (m : Body) (key : String) : Option Bool :=
  match m.lookup key with
  | some (.bool b) => some b
  | _ => none

def intFromMap (m : Body) (key : String) (fallback : Int64) : Int64 := (intAt m key).getD fallback

def floatFromMap (m : Body) (key : String) (fallback : ℚ) : ℚ := (numberAt m key).getD fallback

def stringFromMap (m : Body) (key fallback : String) : String := (stringAt m key).getD fallback

def boolFromMap (m : Body) (key : String) (fallback : Bool) : Bool := (boolAt m key).getD fallback

/-- Two numbers, each with its own fallback. The fallbacks are looked up in any case: `none` is the
panic at one that is too short. -/
def sizeFromMap (m : Body) (key : String) (fallback : List Int64) : Option (List Int64) :=
  match m.lookup key with
  | some (.arr (w :: h :: _)) =>
    match fallback with
    | w₀ :: h₀ :: _ => some [intFromMap [("v", w)] "v" w₀, intFromMap [("v", h)] "v" h₀]
    | _ => none
  | _ => some fallback

/-! ## Network settings -/

/-- The space that `TrimSpace` takes off. -/
def isUnicodeSpace (c : Char) : Bool :=
  let n := c.toNat
  (0x09 ≤ n && n ≤ 0x0d) || n = 0x20 || n = 0x85 || n = 0xa0 || n = 0x1680 ||
    (0x2000 ≤ n && n ≤ 0x200a) || n = 0x2028 || n = 0x2029 || n = 0x202f || n = 0x205f || n = 0x3000

def trimSpace (s : String) : String :=
  String.ofList
    ((s.toList.dropWhile isUnicodeSpace).reverse.dropWhile isUnicodeSpace).reverse

/-- `ToLower`, as far as it can give one of the words it is compared with: the ASCII letters and the
dotted capital I. -/
def toLower (s : String) : String :=
  String.ofList (s.toList.map fun c ↦ if c.toNat = 0x130 then 'i' else c.toLower)

def validNetworkModes : List String := ["prefer_4g", "4g_only", "wifi_only"]

def updateNetwork (body : Body) (c : Config) : Config :=
  { c with
    network.connectionType := stringFromMap body "connection_type" c.network.connectionType
    network.serialPort := stringFromMap body "serial_port" c.network.serialPort
    network.serialBaud := intFromMap body "serial_baud" c.network.serialBaud
    network.localListenPort := intFromMap body "local_listen_port" c.network.localListenPort }

/-- What a request for another mode asks for. -/
structure ModeRequest where
  mode : String
  cloudFallback : Option Bool := none
  fallbackDelay : Option Int64 := none
  deriving DecidableEq

/-- `none` when the mode is refused. -/
def applyNetworkMode (r : ModeRequest) (c : Config) : Option Config :=
  if r.mode ∈ validNetworkModes then
    some { c with
      network.mode := r.mode
      network.cloudWifiFallback := r.cloudFallback <|> c.network.cloudWifiFallback
      network.fallbackDelay :=
        match r.fallbackDelay with
        | some d => if 0 ≤ d then d else c.network.fallbackDelay
        | none => c.network.fallbackDelay }
  else none

/-- `/api/network/mode` -/
def modeRequest (body : Body) : ModeRequest where
  mode := trimSpace (stringFromMap body "mode" "")
  cloudFallback := boolAt body "cloud_wifi_fallback"
  fallbackDelay := intAt body "fallback_delay"

/-- The mode for one of the two words of the older requests. -/
def wordToMode (word : String) : String := if word = "wifi" then "wifi_only" else "prefer_4g"

/-- `/api/network/priority` -/
def priorityRequest (priority : String) : Option ModeRequest :=
  if priority = "4g" ∨ priority = "wifi" then some { mode := wordToMode priority } else none

/-- `/api/network/switch` -/
def switchRequest (target : String) : Option ModeRequest :=
  priorityRequest (toLower (trimSpace target))

/-! ## Camera settings -/

/-- The arithmetic of the processor, which rounds. A product and a sum may be rounded together. -/
structure FloatOps where
  ofInt : ℤ → ℚ
  div : ℚ → ℚ → ℚ
  mulAdd : ℚ → ℚ → ℚ → ℚ

/-- Arithmetic without rounding. -/
def FloatOps.exact : FloatOps := ⟨fun n ↦ n, (· / ·), fun a b c ↦ a * b + c⟩

def cvLoresSizeForMain (F : FloatOps) : List Int64 → List Int64
  | w :: h :: _ =>
    if w * h ≤ 76800 then [w, h]
    else
      let scaleW := F.div 320 (F.ofInt w.toInt)
      let scaleH := F.div 240 (F.ofInt h.toInt)
      let scale := if scaleH < scaleW then scaleH else scaleW
      let lw := Int64.ofRat (F.mulAdd (F.ofInt w.toInt) scale (1 / 2))
      let lh := Int64.ofRat (F.mulAdd (F.ofInt h.toInt) scale (1 / 2))
      [if lw < 1 then 1 else lw, if lh < 1 then 1 else lh]
  | _ => [320, 240]

/-- The stream of a camera that the file does not have. -/
def defaultStream (id : Int64) : CameraStreamConfig :=
  { name := "cam" ++ toString id.toInt, cameraId := id, enabled := true, size := [640, 480]
    framerate := 30, bitrate := 5000, format := "BGR888", brightness := 0, contrast := 1
    sharpness := 3 / 2, saturation := 1, exposureTime := 0, detectionEnabled := true
    overlayEnabled := true, overlayBurnEnabled := some true, gateTimeoutMs := 0
    detectFrameSkip := 3, landingDetectionMode := "", arucoMarkerId := 0, arucoDictionary := ""
    detectionThreshold := 0, landingFullframeFallback := none, overlayFrameSkip := 5
    loresSize := [320, 240], keyframeInterval := 30, preset := "veryfast", tune := "zerolatency" }

/-- One of the streams of a file without streams. It leaves more open than `defaultStream`. -/
def initialStream (name : String) (id : Int64) : CameraStreamConfig :=
  { defaultStream id with
    name := name, format := "RGB888", overlayBurnEnabled := none, detectFrameSkip := 0
    overlayFrameSkip := 0, loresSize := [] }

def CameraConfig.ensureDefaultStreams (c : CameraConfig) : CameraConfig :=
  { c with
    primaryCameraId :=
      if c.primaryCameraId ≠ 0 ∧ c.primaryCameraId ≠ 1 then 0 else c.primaryCameraId
    streams :=
      match c.streams with
      | [] => [initialStream "cam0" 0, initialStream "cam1" 1]
      | streams => streams }

def streamOverlayBurnEnabled (s : CameraStreamConfig) : Bool :=
  s.overlayEnabled && s.overlayBurnEnabled.getD true

def findStream (id : Int64) (streams : List CameraStreamConfig) : Option CameraStreamConfig :=
  streams.find? (·.cameraId = id)

/-- The first stream of the camera is replaced; a stream of a new camera goes to the end. -/
def putStream (s : CameraStreamConfig) : List CameraStreamConfig → List CameraStreamConfig
  | [] => [s]
  | t :: ts => if t.cameraId = s.cameraId then s :: ts else t :: putStream s ts

/-- The fields that a request gives; the fallbacks are the fields of the stream so far. -/
def updateStream (F : FloatOps) (body : Body) (s : CameraStreamConfig) :
    Option CameraStreamConfig := do
  let name := stringFromMap body "name" ""
  let size ← sizeFromMap body "size" s.size
  let loresSize ← sizeFromMap body "lores_size" (cvLoresSizeForMain F size)
  let overlayEnabled := boolFromMap body "overlay_enabled" s.overlayEnabled
  return { s with
    name := if name = "" then s.name else name
    enabled := boolFromMap body "enabled" s.enabled
    format := stringFromMap body "format" s.format
    size
    loresSize
    framerate := intFromMap body "framerate" s.framerate
    bitrate := intFromMap body "bitrate" s.bitrate
    brightness := floatFromMap body "brightness" s.brightness
    contrast := floatFromMap body "contrast" s.contrast
    sharpness := floatFromMap body "sharpness" s.sharpness
    saturation := floatFromMap body "saturation" s.saturation
    exposureTime := intFromMap body "exposure_time" s.exposureTime
    detectionEnabled := boolFromMap body "detection_enabled" s.detectionEnabled
    overlayEnabled
    -- The fallback sees the new value of `overlay_enabled`.
    overlayBurnEnabled := some (boolFromMap body "overlay_burn_enabled"
      (streamOverlayBurnEnabled { s with overlayEnabled }))
    gateTimeoutMs := intFromMap body "gate_timeout_ms" s.gateTimeoutMs
    detectFrameSkip := intFromMap body "detect_frame_skip" s.detectFrameSkip
    overlayFrameSkip := intFromMap body "overlay_frame_skip" s.overlayFrameSkip
    landingDetectionMode := stringFromMap body "landing_detection_mode" s.landingDetectionMode
    arucoMarkerId := intFromMap body "aruco_marker_id" s.arucoMarkerId
    arucoDictionary := stringFromMap body "aruco_dictionary" s.arucoDictionary
    detectionThreshold := floatFromMap body "detection_threshold" s.detectionThreshold
    landingFullframeFallback :=
      if (body.lookup "landing_fullframe_fallback").isSome then
        some (boolFromMap body "landing_fullframe_fallback" true)
      else s.landingFullframeFallback
    keyframeInterval := intFromMap body "keyframe_interval" s.keyframeInterval
    preset := stringFromMap body "preset" s.preset
    tune := stringFromMap body "tune" s.tune }

def streamId (body : Body) : Int64 := intFromMap body "camera_id" 0

/-- The change of `saveCameraStreamFromUI`, after the default streams. -/
def saveCameraStream (F : FloatOps) (body : Body) (c : Config) : Option Config := do
  let id := streamId body
  let s ← updateStream F body ((findStream id c.camera.streams).getD (defaultStream id))
  return { c with camera.streams := putStream s c.camera.streams }

/-- The change of `saveCameraGlobalFromUI`, after the default streams. -/
def saveCameraGlobal (body : Body) (c : Config) : Config :=
  let id := intFromMap body "primary_camera_id" c.camera.primaryCameraId
  { c with
    camera.primaryCameraId := if id = 0 ∨ id = 1 then id else c.camera.primaryCameraId
    camera.autoMemoryProfile :=
      if (body.lookup "auto_memory_profile").isSome then boolFromMap body "auto_memory_profile" true
      else c.camera.autoMemoryProfile }

/-! ## Edits -/

inductive WebEdit
  | network (body : Body)
  | mode (body : Body)
  | priority (priority : String)
  | switch (target : String)
  | cameraStream (body : Body)
  | cameraGlobal (body : Body)

namespace WebEdit

/-- The record as the edit finds it: the camera edits fill in streams first. -/
def prepare : WebEdit → Config → Config
  | cameraStream _, c | cameraGlobal _, c => { c with camera := c.camera.ensureDefaultStreams }
  | _, c => c

/-- The record that is saved; `none` when the request is refused. -/
def change (F : FloatOps) : WebEdit → Config → Option Config
  | network body, c => some (updateNetwork body c)
  | mode body, c => applyNetworkMode (modeRequest body) c
  | priority p, c => (priorityRequest p).bind (applyNetworkMode · c)
  | switch t, c => (switchRequest t).bind (applyNetworkMode · c)
  | cameraStream body, c => saveCameraStream F body c
  | cameraGlobal body, c => some (saveCameraGlobal body c)

def apply (F : FloatOps) (e : WebEdit) (c : Config) : Option Config := e.change F (e.prepare c)

/-- The edit gives no port, or one that the check lets pass. -/
def KeepsPort : WebEdit → Prop
  | network body => ∀ p ∈ intAt body "local_listen_port", 0 < p ∧ p ≤ 65535
  | _ => True

end WebEdit

section

variable {F : FloatOps} {c c' : Config} {e : WebEdit}

/-! ## What an edit leaves valid -/

theorem applyNetworkMode_valid {r : ModeRequest} (h : applyNetworkMode r c = some c') :
    c'.Valid ↔ c.Valid := by
  obtain ⟨-, h⟩ := Option.ite_none_right_eq_some.mp h
  obtain rfl := Option.some.inj h
  rfl

theorem Config.valid_camera {camera : CameraConfig} : { c with camera }.Valid ↔ c.Valid := Iff.rfl

theorem saveCameraStream_eq_some {body : Body} :
    saveCameraStream F body c = some c' ↔
      ∃ s, updateStream F body ((findStream (streamId body) c.camera.streams).getD
          (defaultStream (streamId body))) = some s ∧
        { c with camera.streams := putStream s c.camera.streams } = c' := by
  simp [saveCameraStream, Option.bind_eq_some_iff]

theorem updateNetwork_valid {body : Body} (hc : c.Valid) :
    (updateNetwork body c).Valid ↔ (WebEdit.network body).KeepsPort := by
  obtain ⟨hauth, hport, hhost, htarget, hweb⟩ := Config.valid_iff.mp hc
  have hiff : (updateNetwork body c).Valid ↔
      ¬ ((updateNetwork body c).network.localListenPort ≤ 0 ∨
        65535 < (updateNetwork body c).network.localListenPort) := by
    rw [Config.valid_iff]
    constructor
    · rintro ⟨-, hnew, -⟩
      exact hnew
    · intro hnew
      exact ⟨hauth, hnew, hhost, htarget, hweb⟩
  rw [hiff, WebEdit.KeepsPort]
  dsimp only [updateNetwork, intFromMap]
  cases intAt body "local_listen_port" with
  | none => exact iff_of_true hport nofun
  | some p => simp

theorem bind_applyNetworkMode_valid {request : Option ModeRequest}
    (h : request.bind (applyNetworkMode · c) = some c') : c'.Valid ↔ c.Valid := by
  obtain ⟨r, -, hr⟩ := Option.bind_eq_some_iff.mp h
  exact applyNetworkMode_valid hr

/-- Only the port of a network update can make a valid record invalid. -/
theorem WebEdit.apply_valid (hc : c.Valid) (h : e.apply F c = some c') :
    c'.Valid ↔ e.KeepsPort := by
  cases e with
  | network body =>
    obtain rfl := Option.some.inj h
    exact updateNetwork_valid hc
  | mode body => exact iff_of_true ((applyNetworkMode_valid h).mpr hc) trivial
  | priority p =>
    have hr : (priorityRequest p).bind (applyNetworkMode · c) = some c' := h
    exact iff_of_true ((bind_applyNetworkMode_valid hr).mpr hc) trivial
  | switch t =>
    have hr : (switchRequest t).bind (applyNetworkMode · c) = some c' := h
    exact iff_of_true ((bind_applyNetworkMode_valid hr).mpr hc) trivial
  | cameraStream body =>
    obtain ⟨s, -, rfl⟩ := saveCameraStream_eq_some.mp h
    exact iff_of_true (Config.valid_camera.mpr hc) trivial
  | cameraGlobal body =>
    obtain rfl := Option.some.inj h
    exact iff_of_true (Config.valid_camera.mpr hc) trivial

end

/-- A file with just the settings that are required. -/
def minimalFile : Yaml :=
  .map [("network", .map [("local_listen_port", .int 14550), ("target_host", .str "10.0.0.1"),
      ("target_port", .int 14550)]),
    ("web", .map [("port", .int 8080)])]

end DroneBridge
