import DroneBridge.Config.Edits
import DroneBridge.Config.Stable
import Mathlib.Data.List.Count
import Mathlib.Data.List.Sort

/-!
# The effective configuration of the streamers

The processes that publish the cameras do not read the configuration file. For each stream a file of
its own is written, with every value settled: what the stream leaves open has a default here, and a
board with little memory has limits of its own. These defaults are the third layer after those of
loading and those of the web page, and they are not all the same.

Two facts are used where streams are saved. What a load puts right in a stream makes no difference
to its file (`payload_normalize`). And of the other streams only three flags matter, through the
number of streams in use (`payload_congr`).
-/

namespace DroneBridge

/-! ## Where a stream is published -/

structure Mediamtx where
  host : String
  rtspPort : Int64
  webrtcPort : Int64
  hlsPort : Int64
  deriving DecidableEq, Repr

def resolveMediamtx (c : Config) : Mediamtx where
  host := if c.camera.mediamtxHost = "" then c.auth.host else c.camera.mediamtxHost
  rtspPort := if 0 < c.camera.mediamtxPort then c.camera.mediamtxPort else 8554
  webrtcPort := if 0 < c.camera.mediamtxWebrtcPort then c.camera.mediamtxWebrtcPort else 8889
  hlsPort := if 0 < c.camera.mediamtxHlsPort then c.camera.mediamtxHlsPort else 8888

def droneID (c : Config) : String := c.auth.uuid

def primaryCameraID (c : Config) : Int64 :=
  if c.camera.primaryCameraId = 0 ∨ c.camera.primaryCameraId = 1 then c.camera.primaryCameraId
  else 0

inductive StreamRole
  | primary
  | secondary
  deriving DecidableEq, Repr

def streamRole (c : Config) (id : Int64) : StreamRole :=
  if id = primaryCameraID c then .primary else .secondary

/-- The bytes that `PathEscape` leaves as they are in a segment of a path. -/
def isPathByte (b : UInt8) : Bool :=
  (0x61 ≤ b && b ≤ 0x7a) || (0x41 ≤ b && b ≤ 0x5a) || (0x30 ≤ b && b ≤ 0x39) ||
    "-_.~$&+:=@".toUTF8.toList.contains b

def upperHexDigit (n : UInt8) : Char := Nat.digitChar n.toNat |>.toUpper

def pathEscape (s : String) : String :=
  String.ofList <| s.toUTF8.toList.flatMap fun b ↦
    if isPathByte b then [Char.ofNat b.toNat]
    else ['%', upperHexDigit (b / 16), upperHexDigit (b % 16)]

/-- The last part of the path; there are two of them. -/
def publishPathSuffix (c : Config) : StreamRole → String
  | .primary =>
    if c.camera.publishPathCam0Suffix = "" then "cam0" else c.camera.publishPathCam0Suffix
  | .secondary =>
    if c.camera.publishPathCam1Suffix = "" then "cam1" else c.camera.publishPathCam1Suffix

def slotPath (c : Config) (id : Int64) : String :=
  "/" ++ pathEscape (droneID c) ++ "/" ++ publishPathSuffix c (streamRole c id)

def publishPath (c : Config) (id : Int64) : Except String String :=
  if droneID c = "" then .error "auth.uuid is required for camera publish path"
  else .ok (slotPath c id)

/-! ## Memory -/

inductive MemoryTier
  | tier2GB
  | tier4GB
  | tier8GB
  deriving DecidableEq, Repr

def MemoryTier.gb : MemoryTier → ℕ
  | tier2GB => 2
  | tier4GB => 4
  | tier8GB => 8

/-- From the size of the memory in kB, or zero if it is not known. -/
def detectMemoryTier (kb : Int64) : MemoryTier :=
  if kb ≤ 0 then .tier4GB
  else if kb ≤ 2750000 then .tier2GB
  else if kb ≤ 5750000 then .tier4GB
  else .tier8GB

/-- The arithmetic that a size is cut with: besides the operations of the web page, a product and
the value of a constant. -/
structure CameraFloat extends FloatOps where
  mul : ℚ → ℚ → ℚ
  const : ℚ → ℚ

def CameraFloat.exact : CameraFloat := ⟨.exact, (· * ·), id⟩

/-- What the files depend on besides the configuration. -/
structure StreamerEnv where
  float : CameraFloat
  memTotalKB : Int64
  /-- `DRONEBRIDGE_EXTERNAL_LANDING` is `1`. -/
  externalLanding : Bool

def streamUsesCV (s : CameraStreamConfig) : Bool := s.detectionEnabled || s.overlayEnabled

def countCVStreams (streams : List CameraStreamConfig) : ℕ :=
  streams.countP fun s ↦ s.enabled && streamUsesCV s

def enabledStreamCount (c : Config) : ℕ := c.camera.streams.countP (·.enabled)

def enabledStreamsSorted (c : Config) : List CameraStreamConfig :=
  (c.camera.streams.filter (·.enabled)).insertionSort fun s t ↦ s.cameraId ≤ t.cameraId

def maxInt (a b : Int64) : Int64 := if b < a then a else b

def minInt (a b : Int64) : Int64 := if a < b then a else b

/-- At most as many pixels as `maxW` times `maxH`, in about the same ratio. -/
def capSizeTo (F : CameraFloat) (maxW maxH : Int64) : List Int64 → List Int64
  | w :: h :: _ =>
    if w * h ≤ maxW * maxH then [w, h]
    else
      let ar := F.div (F.ofInt w.toInt) (F.ofInt h.toInt)
      let (w, h) :=
        if F.const (4 / 3 + 1 / 20) < ar then
          (maxW, Int64.ofRat (F.div (F.ofInt maxW.toInt) ar))
        else if ar < F.const (4 / 3 - 1 / 20) then
          (Int64.ofRat (F.mul (F.ofInt maxH.toInt) ar), maxH)
        else (maxW, maxH)
      [if w < 1 then 1 else w, if h < 1 then 1 else h]
  | _ => [maxW, maxH]

/-- Whether a size has more pixels than another, in 64 bits. -/
def exceeds (maxW maxH : Int64) : List Int64 → Bool
  | w :: h :: _ => maxW * maxH < w * h
  | _ => false

def loresForTier (tier : MemoryTier) (mainSize : List Int64) (user : List Int64) : List Int64 :=
  match user with
  | lw :: lh :: _ =>
    if 0 < lw ∧ 0 < lh then
      match tier with
      | .tier2GB => if 240 * 180 < lw * lh then [240, 180] else [lw, lh]
      | .tier4GB => if 320 * 240 < lw * lh then [320, 240] else [lw, lh]
      | .tier8GB => [lw, lh]
    else forMain
  | _ => forMain
where
  forMain : List Int64 :=
    if exceeds 640 480 mainSize then
      match tier with
      | .tier2GB => [240, 180]
      | _ => [320, 240]
    else [320, 240]

structure StreamMemoryProfile where
  tier : MemoryTier
  applied : Bool
  bufferCount : Int64
  loresSize : List Int64
  detectFrameSkip : Int64
  overlayFrameSkip : Int64
  bitrate : Int64
  size : List Int64
  lowMemoryMode : Bool
  streamRole : StreamRole

def streamBufferCount (c : Config) : Int64 :=
  let n := if 0 < c.camera.streamBufferCount then c.camera.streamBufferCount else 3
  let n := if c.camera.lowMemoryMode ∧ 2 < n then 2 else n
  let n := if n < 1 then 1 else n
  if 6 < n then 6 else n

/-- What the limits look at besides the stream itself. -/
structure StreamUse where
  multiCam : Bool
  /-- The enabled streams that are looked at by a program. -/
  cvCount : ℕ
  hasCV : Bool
  isPrimary : Bool
  deriving DecidableEq, Repr

def streamUse (c : Config) (s : CameraStreamConfig) : StreamUse where
  multiCam := 1 < (enabledStreamsSorted c).length
  cvCount := countCVStreams (enabledStreamsSorted c)
  hasCV := streamUsesCV s
  isPrimary := s.cameraId = c.camera.primaryCameraId

/-- The limits of a board, on a profile with the values of the stream. -/
def tierLimits (F : CameraFloat) (tier : MemoryTier) (use : StreamUse) (p : StreamMemoryProfile) :
    StreamMemoryProfile :=
  let p := { p with tier, applied := true, loresSize := loresForTier tier p.size p.loresSize }
  match tier with
  | .tier2GB =>
    let out :=
      { p with
        bufferCount := 2, lowMemoryMode := true
        detectFrameSkip := maxInt p.detectFrameSkip 5
        overlayFrameSkip := maxInt p.overlayFrameSkip 8
        bitrate := minInt p.bitrate 3500 }
    if use.hasCV then
      if use.multiCam ∨ exceeds 640 480 p.size then
        { out with
          size := capSizeTo F 640 480 p.size
          bitrate := minInt out.bitrate 3000 }
      else if exceeds 960 720 p.size then { out with size := capSizeTo F 960 720 p.size }
      else out
    else out
  | .tier4GB =>
    let out := { p with bufferCount := if !use.multiCam ∨ use.cvCount ≤ 1 then 3 else 2 }
    let out :=
      if use.hasCV ∧ use.multiCam ∧ 2 ≤ use.cvCount then
        let out := { out with detectFrameSkip := maxInt p.detectFrameSkip 4 }
        if !use.isPrimary ∧ exceeds 640 480 p.size then
          { out with
            size := capSizeTo F 640 480 p.size
            bitrate := minInt p.bitrate 4000 }
        else out
      else out
    if exceeds 960 720 p.size then
      { out with
        size := capSizeTo F 960 720 p.size
        bitrate := minInt p.bitrate 5000 }
    else out
  | .tier8GB =>
    let out :=
      { p with
        bufferCount :=
          if use.multiCam ∧ 2 ≤ use.cvCount then 3 else minInt (maxInt p.bufferCount 3) 4 }
    if exceeds 1920 1080 p.size then { out with size := capSizeTo F 1920 1080 p.size } else out

/-- The limits of `low_memory_mode`, after those of the board. -/
def lowMemoryLimits (F : CameraFloat) (p : StreamMemoryProfile) : StreamMemoryProfile :=
  { p with
    bufferCount := minInt p.bufferCount 2
    size := if exceeds 640 480 p.size then capSizeTo F 640 480 p.size else p.size }

/-- The values of the stream, with defaults for those that it leaves open. -/
def baseProfile (c : Config) (s : CameraStreamConfig) : StreamMemoryProfile where
  tier := .tier4GB
  applied := false
  bufferCount := streamBufferCount c
  loresSize := if s.loresSize.length < 2 then [320, 240] else s.loresSize
  detectFrameSkip := if s.detectFrameSkip ≤ 0 then 3 else s.detectFrameSkip
  overlayFrameSkip := if s.overlayFrameSkip ≤ 0 then 5 else s.overlayFrameSkip
  bitrate := if s.bitrate ≤ 0 then 5000 else s.bitrate
  size := if s.size.length < 2 then [640, 480] else s.size
  lowMemoryMode := c.camera.lowMemoryMode
  streamRole := if s.cameraId = c.camera.primaryCameraId then .primary else .secondary

def buildStreamMemoryProfile (E : StreamerEnv) (c : Config) (s : CameraStreamConfig) :
    StreamMemoryProfile :=
  if c.camera.autoMemoryProfile then
    let out := tierLimits E.float (detectMemoryTier E.memTotalKB) (streamUse c s) (baseProfile c s)
    if c.camera.lowMemoryMode then lowMemoryLimits E.float out else out
  else baseProfile c s

/-! ## The files -/

def streamDetectionThreshold (s : CameraStreamConfig) : ℚ :=
  if 0 < s.detectionThreshold then s.detectionThreshold else 4 / 5

def streamLandingFullframeFallback (s : CameraStreamConfig) : Bool :=
  s.landingFullframeFallback.getD true

def streamLandingDetectionMode (s : CameraStreamConfig) : String :=
  orDefault "contour_h" s.landingDetectionMode

def streamArucoMarkerId (s : CameraStreamConfig) : Int64 :=
  if 0 ≤ s.arucoMarkerId then s.arucoMarkerId else 0

def streamArucoDictionary (s : CameraStreamConfig) : String :=
  orDefault "DICT_4X4_50" s.arucoDictionary

structure StreamerJSON where
  cameraID : Int64
  size : List Int64
  framerate : Int64
  format : String
  mediamtxHost : String
  mediamtxPort : Int64
  mediamtxWebRTCPort : Int64
  mediamtxHLSPort : Int64
  publishPath : String
  droneID : String
  bitrate : Int64
  overlayEnabled : Bool
  overlayBurnEnabled : Bool
  detectionEnabled : Bool
  gateTimeoutMs : Int64
  detectFrameSkip : Int64
  detectionThreshold : ℚ
  landingDetectionMode : String
  arucoMarkerId : Int64
  arucoDictionary : String
  landingFullframeFallback : Bool
  overlayFrameSkip : Int64
  loresSize : List Int64
  externalLanding : Bool
  rtspBackend : String
  multiCamera : Bool
  keyframeInterval : Int64
  preset : String
  tune : String
  brightness : ℚ
  contrast : ℚ
  sharpness : ℚ
  saturation : ℚ
  exposureTime : Int64
  bufferCount : Int64
  lowMemoryMode : Bool
  encodeSize : List Int64
  memoryTierGB : ℕ
  memoryProfileApplied : Bool
  streamRole : StreamRole
  physicalCameraID : Int64

/-- Every stream is pushed by the same program. -/
def rtspBackendName : String := "ffmpeg"

def streamConfigFilename (id : Int64) : String :=
  "camera_config_" ++ toString id.toInt ++ ".json"

/-- Between 1 and 30, and 15 by default. -/
def keyframeIntervalOf (n : Int64) : Int64 :=
  let keyframe := if n ≤ 0 then 15 else n
  if 30 < keyframe then 30 else keyframe

/-- What is written for a stream, in a loop of `SyncStreamerConfigFiles`. -/
def payload (E : StreamerEnv) (c : Config) (pub : String) (s : CameraStreamConfig) : StreamerJSON :=
  let memProf := buildStreamMemoryProfile E c s
  let m := resolveMediamtx c
  { cameraID := s.cameraId
    size := memProf.size
    framerate := if s.framerate ≤ 0 then 30 else s.framerate
    format := orDefault "BGR888" s.format
    mediamtxHost := m.host
    mediamtxPort := m.rtspPort
    mediamtxWebRTCPort := m.webrtcPort
    mediamtxHLSPort := m.hlsPort
    publishPath := pub
    droneID := droneID c
    bitrate := memProf.bitrate
    overlayEnabled := s.overlayEnabled
    overlayBurnEnabled := streamOverlayBurnEnabled s
    detectionEnabled := s.detectionEnabled
    gateTimeoutMs := if s.gateTimeoutMs < 0 then 0 else s.gateTimeoutMs
    detectFrameSkip := memProf.detectFrameSkip
    detectionThreshold := streamDetectionThreshold s
    landingDetectionMode := streamLandingDetectionMode s
    arucoMarkerId := streamArucoMarkerId s
    arucoDictionary := streamArucoDictionary s
    landingFullframeFallback := streamLandingFullframeFallback s
    overlayFrameSkip := memProf.overlayFrameSkip
    loresSize := memProf.loresSize
    externalLanding := E.externalLanding
    rtspBackend := rtspBackendName
    multiCamera := 1 < enabledStreamCount c
    keyframeInterval := keyframeIntervalOf s.keyframeInterval
    preset := orDefault "veryfast" s.preset
    tune := orDefault "zerolatency" s.tune
    brightness := s.brightness
    contrast := s.contrast
    sharpness := s.sharpness
    saturation := s.saturation
    exposureTime := s.exposureTime
    bufferCount := memProf.bufferCount
    lowMemoryMode := memProf.lowMemoryMode
    encodeSize := memProf.size
    memoryTierGB := memProf.tier.gb
    memoryProfileApplied := memProf.applied
    streamRole := memProf.streamRole
    physicalCameraID := s.cameraId }

/-- The files that are written, in their order, or the error. -/
def syncStreamerConfigFiles (E : StreamerEnv) (c : Config) :
    Except String (List (String × StreamerJSON)) :=
  let c := { c with camera := c.camera.ensureDefaultStreams }
  if droneID c = "" then .error "auth.uuid is required to publish camera streams"
  else c.camera.streams.mapM fun s ↦ do
    let pub ← publishPath c s.cameraId
    return (streamConfigFilename s.cameraId, payload E c pub s)

/-! ## How the limits act on each value -/

namespace StreamUse

/-- Whether a board of 4 GB holds the stream to be one of too many. -/
def cutsSecond (use : StreamUse) (size : List Int64) : Bool :=
  use.hasCV && use.multiCam && 2 ≤ use.cvCount && !use.isPrimary && exceeds 640 480 size

def limitSize (F : CameraFloat) (use : StreamUse) (tier : MemoryTier) (size : List Int64) :
    List Int64 :=
  match tier with
  | .tier2GB =>
    if use.hasCV ∧ (use.multiCam ∨ exceeds 640 480 size) then capSizeTo F 640 480 size
    else if use.hasCV ∧ exceeds 960 720 size then capSizeTo F 960 720 size
    else size
  | .tier4GB =>
    if exceeds 960 720 size then capSizeTo F 960 720 size
    else if use.cutsSecond size then capSizeTo F 640 480 size
    else size
  | .tier8GB => if exceeds 1920 1080 size then capSizeTo F 1920 1080 size else size

def limitDetect (use : StreamUse) (tier : MemoryTier) (skip : Int64) : Int64 :=
  match tier with
  | .tier2GB => maxInt skip 5
  | .tier4GB => if use.hasCV ∧ use.multiCam ∧ 2 ≤ use.cvCount then maxInt skip 4 else skip
  | .tier8GB => skip

def limitOverlay (tier : MemoryTier) (skip : Int64) : Int64 :=
  match tier with
  | .tier2GB => maxInt skip 8
  | _ => skip

def limitBitrate (use : StreamUse) (tier : MemoryTier) (size : List Int64) (bitrate : Int64) :
    Int64 :=
  match tier with
  | .tier2GB =>
    if use.hasCV ∧ (use.multiCam ∨ exceeds 640 480 size) then minInt (minInt bitrate 3500) 3000
    else minInt bitrate 3500
  | .tier4GB =>
    if exceeds 960 720 size then minInt bitrate 5000
    else if use.cutsSecond size then minInt bitrate 4000
    else bitrate
  | .tier8GB => bitrate

end StreamUse

/-- The limits act on each value by itself, and of the size they look only at the pixels. -/
theorem tierLimits_update (F : CameraFloat) (tier : MemoryTier) (use : StreamUse)
    (p : StreamMemoryProfile) {size : List Int64}
    (hsize : ∀ w h, exceeds w h p.size = exceeds w h size)
    (loresSize : List Int64) (detectFrameSkip overlayFrameSkip bitrate : Int64) :
    tierLimits F tier use { p with size, loresSize, detectFrameSkip, overlayFrameSkip, bitrate } =
      { tierLimits F tier use p with
        size := use.limitSize F tier size
        loresSize := loresForTier tier size loresSize
        detectFrameSkip := use.limitDetect tier detectFrameSkip
        overlayFrameSkip := StreamUse.limitOverlay tier overlayFrameSkip
        bitrate := use.limitBitrate tier size bitrate } := by
  obtain ⟨multiCam, cvCount, hasCV, isPrimary⟩ := use
  cases tier with
  | tier2GB =>
    cases hasCV <;> cases multiCam <;> cases h₁ : exceeds 640 480 size <;>
      cases h₂ : exceeds 960 720 size <;>
        simp [tierLimits, StreamUse.limitSize, StreamUse.limitDetect, StreamUse.limitOverlay,
          StreamUse.limitBitrate, hsize, h₁, h₂]
  | tier4GB =>
    cases hasCV <;> cases multiCam <;> cases isPrimary <;> by_cases hcv : 2 ≤ cvCount <;>
      cases h₁ : exceeds 640 480 size <;> cases h₂ : exceeds 960 720 size <;>
        simp [tierLimits, StreamUse.limitSize, StreamUse.limitDetect, StreamUse.limitOverlay,
          StreamUse.limitBitrate, StreamUse.cutsSecond, hsize, hcv, h₁, h₂]
  | tier8GB =>
    cases h : exceeds 1920 1080 size <;>
      simp [tierLimits, StreamUse.limitSize, StreamUse.limitDetect, StreamUse.limitOverlay,
        StreamUse.limitBitrate, hsize, h]

/-! ## Values in effect -/

section

variable (E : StreamerEnv) (c : Config) (s : CameraStreamConfig)

/-- The board whose limits apply, if any do. -/
def tierInEffect : Option MemoryTier :=
  if c.camera.autoMemoryProfile then some (detectMemoryTier E.memTotalKB) else none

/-- What becomes of a size of the stream. -/
def sizeInEffect (size : List Int64) : List Int64 :=
  match tierInEffect E c with
  | none => size
  | some tier =>
    let limited := (streamUse c s).limitSize E.float tier size
    if c.camera.lowMemoryMode ∧ exceeds 640 480 limited then capSizeTo E.float 640 480 limited
    else limited

def loresInEffect (size lores : List Int64) : List Int64 :=
  match tierInEffect E c with
  | none => lores
  | some tier => loresForTier tier size lores

def detectInEffect (skip : Int64) : Int64 :=
  match tierInEffect E c with
  | none => skip
  | some tier => (streamUse c s).limitDetect tier skip

def overlayInEffect (skip : Int64) : Int64 :=
  match tierInEffect E c with
  | none => skip
  | some tier => StreamUse.limitOverlay tier skip

def bitrateInEffect (size : List Int64) (bitrate : Int64) : Int64 :=
  match tierInEffect E c with
  | none => bitrate
  | some tier => (streamUse c s).limitBitrate tier size bitrate

end

/-- A profile from the one of a stream in the same use: other values give other values in effect,
and the rest is the same. -/
theorem buildStreamMemoryProfile_update {E : StreamerEnv} {c : Config} {s t : CameraStreamConfig}
    {p : StreamMemoryProfile} (huse : streamUse c t = streamUse c s)
    (hp : baseProfile c t =
      { baseProfile c s with
        size := p.size, loresSize := p.loresSize, detectFrameSkip := p.detectFrameSkip
        overlayFrameSkip := p.overlayFrameSkip, bitrate := p.bitrate })
    (hsize : ∀ w h, exceeds w h (baseProfile c s).size = exceeds w h p.size) :
    buildStreamMemoryProfile E c t =
      { buildStreamMemoryProfile E c s with
        size := sizeInEffect E c s p.size
        loresSize := loresInEffect E c p.size p.loresSize
        detectFrameSkip := detectInEffect E c s p.detectFrameSkip
        overlayFrameSkip := overlayInEffect E c p.overlayFrameSkip
        bitrate := bitrateInEffect E c s p.size p.bitrate } := by
  have hlimits := tierLimits_update E.float (detectMemoryTier E.memTotalKB) (streamUse c s)
    (baseProfile c s) hsize p.loresSize p.detectFrameSkip p.overlayFrameSkip p.bitrate
  rw [buildStreamMemoryProfile, buildStreamMemoryProfile, huse, hp]
  dsimp only [sizeInEffect, loresInEffect, detectInEffect, overlayInEffect, bitrateInEffect,
    tierInEffect]
  cases c.camera.autoMemoryProfile with
  | false => rfl
  | true =>
    rw [if_pos rfl, if_pos rfl, if_pos rfl]
    dsimp only
    rw [hlimits]
    cases c.camera.lowMemoryMode with
    | false => simp
    | true => simp [lowMemoryLimits]

theorem buildStreamMemoryProfile_self {E : StreamerEnv} {c : Config} {s : CameraStreamConfig} :
    buildStreamMemoryProfile E c s =
      { buildStreamMemoryProfile E c s with
        size := sizeInEffect E c s (baseProfile c s).size
        loresSize := loresInEffect E c (baseProfile c s).size (baseProfile c s).loresSize
        detectFrameSkip := detectInEffect E c s (baseProfile c s).detectFrameSkip
        overlayFrameSkip := overlayInEffect E c (baseProfile c s).overlayFrameSkip
        bitrate := bitrateInEffect E c s (baseProfile c s).size (baseProfile c s).bitrate } :=
  buildStreamMemoryProfile_update rfl rfl fun _ _ ↦ rfl

/-! ## What the file of a stream depends on -/

section

variable {E : StreamerEnv} {c : Config} {pub : String} {s : CameraStreamConfig}
  {streams : List CameraStreamConfig}

/-- The file is the same before and after a load has put the stream right. -/
theorem payload_normalize : payload E c pub s.normalize = payload E c pub s := by
  have hbase : baseProfile c s.normalize = baseProfile c s := by
    dsimp only [baseProfile, CameraStreamConfig.normalize]
    rw [ite_default_idem (·.length < 2) (by decide) s.loresSize,
      ite_default_idem (· ≤ 0) (by decide) s.detectFrameSkip,
      ite_default_idem (· ≤ 0) (by decide) s.overlayFrameSkip]
  have hprofile : buildStreamMemoryProfile E c s.normalize = buildStreamMemoryProfile E c s := by
    rw [buildStreamMemoryProfile, hbase]
    rfl
  have hthreshold : streamDetectionThreshold s.normalize = streamDetectionThreshold s := by
    dsimp only [streamDetectionThreshold, CameraStreamConfig.normalize]
    by_cases h : s.detectionThreshold ≤ 0
    · simp [h, not_lt.mpr h]
    · simp [h]
  have hgate : (if s.normalize.gateTimeoutMs < 0 then 0 else s.normalize.gateTimeoutMs) =
      if s.gateTimeoutMs < 0 then 0 else s.gateTimeoutMs :=
    ite_default_idem (· < 0) (by decide) s.gateTimeoutMs
  rw [payload, hprofile, hthreshold, hgate]
  rfl

/-- The flags of a stream that count for the other streams too. -/
def CameraStreamConfig.flags (s : CameraStreamConfig) : Bool × Bool × Bool :=
  (s.enabled, s.detectionEnabled, s.overlayEnabled)

theorem enabledStreamCount_eq :
    enabledStreamCount c = (c.camera.streams.map (·.flags)).countP (·.1) := by
  rw [List.countP_map]
  rfl

theorem length_enabledStreamsSorted : (enabledStreamsSorted c).length = enabledStreamCount c := by
  rw [enabledStreamsSorted, List.length_insertionSort, enabledStreamCount,
    List.countP_eq_length_filter]

theorem countCVStreams_enabledStreamsSorted :
    countCVStreams (enabledStreamsSorted c) =
      (c.camera.streams.map (·.flags)).countP fun f ↦ f.1 && (f.2.1 || f.2.2) := by
  have hperm : (enabledStreamsSorted c).Perm (c.camera.streams.filter (·.enabled)) :=
    List.perm_insertionSort _ _
  rw [countCVStreams, hperm.countP_eq, List.countP_filter, List.countP_map]
  refine List.countP_congr fun s _ ↦ ?_
  cases hs : s.enabled <;> simp [CameraStreamConfig.flags, streamUsesCV, hs]

theorem payload_congr (h : streams.map (·.flags) = c.camera.streams.map (·.flags)) :
    payload E { c with camera.streams := streams } pub s = payload E c pub s := by
  have hcount : enabledStreamCount { c with camera.streams := streams } = enabledStreamCount c := by
    rw [enabledStreamCount_eq, enabledStreamCount_eq]
    exact congrArg _ h
  have huse : streamUse { c with camera.streams := streams } s = streamUse c s := by
    rw [streamUse, streamUse, length_enabledStreamsSorted, length_enabledStreamsSorted, hcount,
      countCVStreams_enabledStreamsSorted, countCVStreams_enabledStreamsSorted]
    dsimp only
    rw [h]
  have hprofile : buildStreamMemoryProfile E { c with camera.streams := streams } s =
      buildStreamMemoryProfile E c s := by
    rw [buildStreamMemoryProfile, huse]
    rfl
  rw [payload, hprofile, hcount]
  rfl

def streamFile (E : StreamerEnv) (c : Config) (s : CameraStreamConfig) : String × StreamerJSON :=
  (streamConfigFilename s.cameraId, payload E c (slotPath c s.cameraId) s)

theorem syncStreamerConfigFiles_eq_error (h : droneID c = "") :
    syncStreamerConfigFiles E c = .error "auth.uuid is required to publish camera streams" :=
  if_pos h

/-- With an id of the drone there is a file for each stream. -/
theorem syncStreamerConfigFiles_eq_ok (h : droneID c ≠ "") :
    syncStreamerConfigFiles E c = .ok (c.camera.ensureDefaultStreams.streams.map
      (streamFile E { c with camera := c.camera.ensureDefaultStreams })) := by
  have hpub : ∀ id, publishPath { c with camera := c.camera.ensureDefaultStreams } id =
      .ok (slotPath { c with camera := c.camera.ensureDefaultStreams } id) := fun id ↦ if_neg h
  have hid : droneID { c with camera := c.camera.ensureDefaultStreams } ≠ "" := h
  rw [syncStreamerConfigFiles]
  simp only [hpub, if_neg hid]
  exact List.mapM_pure

end

end DroneBridge
