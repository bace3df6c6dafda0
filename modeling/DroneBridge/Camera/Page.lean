import DroneBridge.Camera.Effective
import DroneBridge.Config.StreamSave

/-!
# The settings page and what it saves back

The settings page is given the stream of a camera with its gaps filled in, and a save sends all of
it back as JSON, where every number is a 64-bit float. Three layers have defaults for what a stream
leaves open: the page, the stored stream and the file of the streamer. Where the page's default is
that of the streamer, a save spells it out and nothing changes. Two fields differ: a landing
fallback that is left open is shown as off and runs as on, and the small size is not shown at all
but computed from the size.
-/

namespace DroneBridge

/-! ## Numbers in JSON -/

namespace FloatOps

variable (F : FloatOps)

/-- An integer as a JSON number. -/
def number (n : Int64) : Json := .num (F.ofInt n.toInt)

/-- An integer that has gone through JSON. -/
def json (n : Int64) : Int64 := .ofRat (F.ofInt n.toInt)

/-- What conversion to a 64-bit float keeps. -/
structure Faithful : Prop where
  exact : ∀ n : ℤ, -2 ^ 53 ≤ n → n ≤ 2 ^ 53 → F.ofInt n = n
  mono : ∀ m n : ℤ, m ≤ n → F.ofInt m ≤ F.ofInt n

variable {F}

theorem Faithful.le_json (hF : F.Faithful) {k : ℤ} {n : Int64} (hlow : -2 ^ 53 ≤ k)
    (hhigh : k ≤ 2 ^ 53) (h : k ≤ n.toInt) : k ≤ (F.json n).toInt := by
  refine Int64.le_toInt_ofRat (by omega) ?_
  rw [← hF.exact k hlow hhigh]
  exact hF.mono k n.toInt h

theorem Faithful.json_le (hF : F.Faithful) {k : ℤ} {n : Int64} (hlow : -2 ^ 53 ≤ k)
    (hhigh : k ≤ 2 ^ 53) (h : n.toInt ≤ k) : (F.json n).toInt ≤ k := by
  refine Int64.toInt_ofRat_le (by omega) ?_
  rw [← hF.exact k hlow hhigh]
  exact hF.mono n.toInt k h

/-- A number that a float has room for, and for its neighbours. -/
def Small (n : Int64) : Prop := -2 ^ 53 < n.toInt ∧ n.toInt < 2 ^ 53

instance (n : Int64) : Decidable (Small n) := inferInstanceAs (Decidable (_ ∧ _))

theorem Faithful.json_eq (hF : F.Faithful) {n : Int64} (h : Small n) : F.json n = n :=
  Int64.toInt_inj.mp
    (le_antisymm (hF.json_le h.1.le h.2.le le_rfl) (hF.le_json h.1.le h.2.le le_rfl))

theorem Faithful.json_le_iff (hF : F.Faithful) {k n : Int64} (hk : Small k) :
    F.json n ≤ k ↔ n ≤ k := by
  obtain ⟨hlow, hhigh⟩ := hk
  rw [Int64.le_iff_toInt_le, Int64.le_iff_toInt_le]
  constructor
  · intro h
    by_contra hn
    have hjson := hF.le_json (k := k.toInt + 1) (n := n) (by omega) (by omega) (by omega)
    omega
  · exact hF.json_le hlow.le hhigh.le

theorem Faithful.json_lt_iff (hF : F.Faithful) {k n : Int64} (hk : Small k) :
    F.json n < k ↔ n < k := by
  obtain ⟨hlow, hhigh⟩ := hk
  rw [Int64.lt_iff_toInt_lt, Int64.lt_iff_toInt_lt]
  constructor
  · intro h
    by_contra hn
    have hjson := hF.le_json (k := k.toInt) (n := n) (by omega) (by omega) (by omega)
    omega
  · intro h
    have hjson := hF.json_le (k := k.toInt - 1) (n := n) (by omega) (by omega) (by omega)
    omega

/-- It makes no difference whether the argument or the value goes through JSON. -/
def Carried (F : FloatOps) (e : Int64 → Int64) : Prop := ∀ n, e (F.json n) = F.json (e n)

theorem Carried.comp {e f : Int64 → Int64} (he : F.Carried e) (hf : F.Carried f) :
    F.Carried fun n ↦ e (f n) := by
  intro n
  dsimp only
  rw [hf n, he (f n)]

/-- A value by default for what is not positive, before or after JSON. -/
theorem Faithful.ite_nonpos_json (hF : F.Faithful) {d : Int64} (hd : Small d) (n : Int64) :
    (if F.json n ≤ 0 then d else F.json n) = F.json (if n ≤ 0 then d else n) := by
  by_cases h : n ≤ 0 <;> simp [hF.json_le_iff (k := 0) (by decide), h, hF.json_eq hd]

theorem Faithful.ite_neg_json (hF : F.Faithful) (n : Int64) :
    (if F.json n < 0 then 0 else F.json n) = F.json (if n < 0 then 0 else n) := by
  have hzero : F.json 0 = 0 := hF.json_eq (by decide)
  by_cases h : n < 0 <;> simp [hF.json_lt_iff (k := 0) (by decide), h, hzero]

theorem Faithful.carried_min (hF : F.Faithful) {k : Int64} (hk : Small k) :
    F.Carried (minInt · k) := by
  intro n
  by_cases h : n < k <;> simp [minInt, hF.json_lt_iff hk, h, hF.json_eq hk]

theorem Faithful.carried_max (hF : F.Faithful) {k : Int64} (hk : Small k) :
    F.Carried (maxInt · k) := by
  intro n
  by_cases h : n ≤ k
  · simp [maxInt, ← Int64.not_le, hF.json_le_iff hk, h, hF.json_eq hk]
  · simp [maxInt, ← Int64.not_le, hF.json_le_iff hk, h]

end FloatOps

/-! ## The page -/

def StreamRole.text : StreamRole → String
  | primary => "primary"
  | secondary => "secondary"

/-- The page of a stream, after it has gone through JSON. -/
def streamPage (E : StreamerEnv) (c : Config) (id : Int64) (s : CameraStreamConfig) : Body :=
  let number := E.float.number
  let size := if s.size.length < 2 then [640, 480] else s.size
  let m := resolveMediamtx c
  [("camera_id", number id),
    ("name", .str s.name),
    ("enabled", .bool s.enabled),
    ("stream_role", .str (streamRole c id).text),
    ("primary_camera_id", number c.camera.primaryCameraId),
    ("memory_tier_gb", .num (detectMemoryTier E.memTotalKB).gb),
    ("auto_memory_profile", .bool c.camera.autoMemoryProfile),
    ("size", .arr (size.map number)),
    ("framerate", number (if s.framerate ≤ 0 then 30 else s.framerate)),
    ("format", .str (orDefault "BGR888" s.format)),
    ("mediamtx_host", .str m.host),
    ("mediamtx_port", number m.rtspPort),
    ("mediamtx_webrtc_port", number m.webrtcPort),
    ("mediamtx_hls_port", number m.hlsPort),
    -- Without an id of the drone the path is empty.
    ("publish_path", .str ((publishPath c id).toOption.getD "")),
    ("drone_id", .str c.auth.uuid),
    ("bitrate", number (if s.bitrate ≤ 0 then 5000 else s.bitrate)),
    ("detection_enabled", .bool s.detectionEnabled),
    ("overlay_enabled", .bool s.overlayEnabled),
    ("overlay_burn_enabled", .bool (streamOverlayBurnEnabled s)),
    ("gate_timeout_ms", number s.gateTimeoutMs),
    ("detect_frame_skip", number s.detectFrameSkip),
    ("overlay_frame_skip", number s.overlayFrameSkip),
    ("lores_size", .arr ((cvLoresSizeForMain E.float.toFloatOps size).map number)),
    ("keyframe_interval", number s.keyframeInterval),
    ("preset", .str s.preset),
    ("tune", .str s.tune),
    ("brightness", .num s.brightness),
    ("contrast", .num s.contrast),
    ("sharpness", .num s.sharpness),
    ("saturation", .num s.saturation),
    ("exposure_time", number s.exposureTime),
    ("landing_detection_mode", .str s.landingDetectionMode),
    ("aruco_marker_id", number s.arucoMarkerId),
    ("aruco_dictionary", .str s.arucoDictionary),
    ("detection_threshold", .num s.detectionThreshold),
    ("landing_fullframe_fallback", .bool (s.landingFullframeFallback = some true))]

/-- What the page is given about a camera. -/
def cameraConfigToUI (E : StreamerEnv) (c : Config) (id : Int64) : Body :=
  let c := { c with camera := c.camera.ensureDefaultStreams }
  streamPage E c id ((findStream id c.camera.streams).getD (defaultStream id))

/-- The stream that a save makes of the page. -/
def pageStream (F : FloatOps) (s : CameraStreamConfig) : CameraStreamConfig :=
  { s with
    size := (s.size.take 2).map F.json
    loresSize := (cvLoresSizeForMain F s.size).map F.json
    framerate := F.json (if s.framerate ≤ 0 then 30 else s.framerate)
    format := orDefault "BGR888" s.format
    bitrate := F.json (if s.bitrate ≤ 0 then 5000 else s.bitrate)
    overlayBurnEnabled := some (streamOverlayBurnEnabled s)
    gateTimeoutMs := F.json s.gateTimeoutMs
    detectFrameSkip := F.json s.detectFrameSkip
    overlayFrameSkip := F.json s.overlayFrameSkip
    keyframeInterval := F.json s.keyframeInterval
    exposureTime := F.json s.exposureTime
    arucoMarkerId := F.json s.arucoMarkerId
    landingFullframeFallback := some (s.landingFullframeFallback = some true) }

section

variable {E : StreamerEnv} {c : Config} {id : Int64} {s : CameraStreamConfig}

theorem streamId_page : streamId (cameraConfigToUI E c id) = E.float.json id := rfl

theorem cvLoresSizeForMain_pair (F : FloatOps) (main : List Int64) :
    ∃ w h, cvLoresSizeForMain F main = [w, h] := by
  rcases main with _ | ⟨w, _ | ⟨h, rest⟩⟩
  · exact ⟨_, _, rfl⟩
  · exact ⟨_, _, rfl⟩
  · rw [cvLoresSizeForMain]
    split <;> exact ⟨_, _, rfl⟩

theorem exists_cons_cons {l : List Int64} (h : 2 ≤ l.length) : ∃ a b rest, l = a :: b :: rest := by
  rcases l with _ | ⟨a, _ | ⟨b, rest⟩⟩
  · simp at h
  · simp at h
  · exact ⟨a, b, rest, rfl⟩

theorem updateStream_streamPage (hsize : 2 ≤ s.size.length) :
    updateStream E.float.toFloatOps (streamPage E c id s) s =
      some (pageStream E.float.toFloatOps s) := by
  obtain ⟨w, h, rest, hwh⟩ := exists_cons_cons hsize
  obtain ⟨lw, lh, hlores⟩ := cvLoresSizeForMain_pair E.float.toFloatOps s.size
  have hshown : (if s.size.length < 2 then [640, 480] else s.size) = s.size :=
    if_neg (Nat.not_lt.mpr hsize)
  have hsize' : sizeFromMap (streamPage E c id s) "size" s.size =
      some ((s.size.take 2).map E.float.json) := by
    have hlook : (streamPage E c id s).lookup "size" = some (.arr (s.size.map E.float.number)) :=
      congrArg (fun l : List Int64 ↦ some (Json.arr (l.map E.float.number))) hshown
    rw [sizeFromMap, hlook, hwh]
    rfl
  have hlores' : ∀ main, sizeFromMap (streamPage E c id s) "lores_size"
      (cvLoresSizeForMain E.float.toFloatOps main) =
        some ((cvLoresSizeForMain E.float.toFloatOps s.size).map E.float.json) := by
    intro main
    obtain ⟨fw, fh, hfallback⟩ := cvLoresSizeForMain_pair E.float.toFloatOps main
    have hlook : (streamPage E c id s).lookup "lores_size" =
        some (.arr ((cvLoresSizeForMain E.float.toFloatOps s.size).map E.float.number)) :=
      congrArg (fun l : List Int64 ↦
        some (Json.arr ((cvLoresSizeForMain E.float.toFloatOps l).map E.float.number))) hshown
    rw [sizeFromMap, hlook, hlores, hfallback]
    rfl
  have hname : (if stringFromMap (streamPage E c id s) "name" "" = "" then s.name
      else stringFromMap (streamPage E c id s) "name" "") = s.name := by
    change (if s.name = "" then s.name else s.name) = s.name
    rw [ite_self]
  rw [updateStream, hname, hsize', Option.bind_eq_bind, Option.bind_some, hlores', Option.bind_some]
  rfl

/-! ## What a save of the page keeps -/

theorem carried_detectInEffect (hF : E.float.Faithful) :
    E.float.Carried (detectInEffect E c s) := by
  intro n
  rw [detectInEffect, detectInEffect]
  split
  · rfl
  case h_2 tier _ =>
    cases tier with
    | tier2GB => exact hF.carried_max (by decide) n
    | tier4GB =>
      dsimp only [StreamUse.limitDetect]
      split
      · exact hF.carried_max (by decide) n
      · rfl
    | tier8GB => rfl

theorem carried_overlayInEffect (hF : E.float.Faithful) :
    E.float.Carried (overlayInEffect E c) := by
  intro n
  rw [overlayInEffect, overlayInEffect]
  split
  · rfl
  case h_2 tier _ =>
    cases tier with
    | tier2GB => exact hF.carried_max (by decide) n
    | tier4GB => rfl
    | tier8GB => rfl

theorem carried_bitrateInEffect (hF : E.float.Faithful) (size : List Int64) :
    E.float.Carried (bitrateInEffect E c s size) := by
  intro n
  rw [bitrateInEffect, bitrateInEffect]
  split
  · rfl
  case h_2 tier _ =>
    cases tier with
    | tier2GB =>
      dsimp only [StreamUse.limitBitrate]
      split
      · exact (hF.carried_min (k := 3000) (by decide)).comp
          (hF.carried_min (k := 3500) (by decide)) n
      · exact hF.carried_min (by decide) n
    | tier4GB =>
      dsimp only [StreamUse.limitBitrate]
      split
      · exact hF.carried_min (by decide) n
      · split
        · exact hF.carried_min (by decide) n
        · rfl
    | tier8GB => rfl

/-- The key frame interval has a small value whatever is given. -/
theorem keyframeIntervalOf_json (hF : E.float.Faithful) (n : Int64) :
    keyframeIntervalOf (E.float.json n) = keyframeIntervalOf n := by
  have hzero := hF.json_le_iff (k := 0) (n := n) (by decide)
  have hthirty := hF.json_le_iff (k := 30) (n := n) (by decide)
  rw [keyframeIntervalOf, keyframeIntervalOf]
  by_cases hpos : n ≤ 0
  · simp [hzero, hpos]
  · by_cases hn : n ≤ 30
    · have hsmall : FloatOps.Small n := by
        rw [Int64.le_iff_toInt_le] at hpos hn
        have hlow : 0 < n.toInt := Int.not_le.mp hpos
        have hhigh : n.toInt ≤ 30 := hn
        exact ⟨by omega, by omega⟩
      rw [hF.json_eq hsmall]
    · simp [hzero, hpos, ← Int64.not_le, hthirty, hn]

theorem length_capSizeTo (F : CameraFloat) (mw mh : Int64) (size : List Int64) :
    (capSizeTo F mw mh size).length = 2 := by
  rcases size with _ | ⟨w, _ | ⟨h, rest⟩⟩
  · rfl
  · rfl
  · rw [capSizeTo]
    split <;> rfl

/-- Sizes that begin with `w` and `h` all stay as they are, or the same two entries are made of
them. -/
def KeepsOrCuts (f : List Int64 → List Int64) (w h : Int64) : Prop :=
  (∀ rest, f (w :: h :: rest) = w :: h :: rest) ∨
    ∃ size, size.length = 2 ∧ ∀ rest, f (w :: h :: rest) = size

theorem keepsOrCuts_limitSize (F : CameraFloat) (use : StreamUse) (tier : MemoryTier)
    (w h : Int64) : KeepsOrCuts (use.limitSize F tier) w h := by
  have hcap : ∀ mw mh, (∀ rest, use.limitSize F tier (w :: h :: rest) =
      capSizeTo F mw mh [w, h]) → KeepsOrCuts (use.limitSize F tier) w h :=
    fun mw mh hcut ↦ .inr ⟨_, length_capSizeTo F mw mh _, hcut⟩
  cases tier with
  | tier2GB =>
    by_cases h₁ : use.hasCV ∧ (use.multiCam ∨ exceeds 640 480 [w, h])
    · exact hcap 640 480 fun rest ↦ if_pos h₁
    · by_cases h₂ : use.hasCV ∧ exceeds 960 720 [w, h]
      · exact hcap 960 720 fun rest ↦ (if_neg h₁).trans (if_pos h₂)
      · exact .inl fun rest ↦ (if_neg h₁).trans (if_neg h₂)
  | tier4GB =>
    by_cases h₁ : exceeds 960 720 [w, h]
    · exact hcap 960 720 fun rest ↦ if_pos h₁
    · by_cases h₂ : use.cutsSecond [w, h]
      · exact hcap 640 480 fun rest ↦ (if_neg h₁).trans (if_pos h₂)
      · exact .inl fun rest ↦ (if_neg h₁).trans (if_neg h₂)
  | tier8GB =>
    by_cases h₁ : exceeds 1920 1080 [w, h]
    · exact hcap 1920 1080 fun rest ↦ if_pos h₁
    · exact .inl fun rest ↦ if_neg h₁

theorem keepsOrCuts_sizeInEffect (w h : Int64) : KeepsOrCuts (sizeInEffect E c s) w h := by
  cases htier : tierInEffect E c with
  | none => exact .inl fun rest ↦ by simp only [sizeInEffect, htier]
  | some tier =>
    have heq : ∀ size, sizeInEffect E c s size =
        if c.camera.lowMemoryMode ∧ exceeds 640 480 ((streamUse c s).limitSize E.float tier size)
        then capSizeTo E.float 640 480 ((streamUse c s).limitSize E.float tier size)
        else (streamUse c s).limitSize E.float tier size := by
      intro size
      simp only [sizeInEffect, htier]
    rcases keepsOrCuts_limitSize E.float (streamUse c s) tier w h with hkept | ⟨size, hlen, hcut⟩
    · by_cases hlow : c.camera.lowMemoryMode ∧ exceeds 640 480 [w, h]
      · refine .inr ⟨capSizeTo E.float 640 480 [w, h], length_capSizeTo .., fun rest ↦ ?_⟩
        rw [heq, hkept]
        exact if_pos hlow
      · refine .inl fun rest ↦ ?_
        rw [heq, hkept]
        exact if_neg hlow
    · refine .inr ⟨sizeInEffect E c s [w, h], ?_, fun rest ↦ ?_⟩
      · rw [heq, hcut]
        split
        · exact length_capSizeTo ..
        · exact hlen
      · rw [heq, heq, hcut, hcut]

/-- Only a size that is longer than two entries and is not cut changes when the rest is dropped. -/
theorem sizeInEffect_take (w h : Int64) (rest : List Int64) :
    sizeInEffect E c s [w, h] = sizeInEffect E c s (w :: h :: rest) ↔
      (sizeInEffect E c s (w :: h :: rest)).length = 2 := by
  rcases keepsOrCuts_sizeInEffect (E := E) (c := c) (s := s) w h with hkept | ⟨size, hlen, hcut⟩
  · rw [hkept, hkept]
    simp [eq_comm]
  · rw [hcut, hcut]
    exact iff_of_true rfl hlen

/-- The numbers of a file that come from the stream. -/
def StreamerJSON.numbers (f : StreamerJSON) : List Int64 :=
  [f.framerate, f.bitrate, f.gateTimeoutMs, f.detectFrameSkip, f.arucoMarkerId, f.overlayFrameSkip,
    f.exposureTime]

/-- What a stream must give so that a save of its page leaves its file as it is. -/
structure PageKeeps (E : StreamerEnv) (c : Config) (s : CameraStreamConfig) : Prop where
  landing : s.landingFullframeFallback.isSome = true
  size : (sizeInEffect E c s s.size).length = 2
  /-- The small size is, in effect, the one that is computed from the size. -/
  lores : loresInEffect E c s.size (if s.loresSize.length < 2 then [320, 240] else s.loresSize) =
    loresInEffect E c s.size ((cvLoresSizeForMain E.float.toFloatOps s.size).map E.float.json)
  numbers : ∀ n ∈ (payload E c (slotPath c s.cameraId) s).numbers, E.float.json n = n

theorem loresInEffect_take (w h : Int64) (rest lores : List Int64) :
    loresInEffect E c (w :: h :: rest) lores = loresInEffect E c [w, h] lores := by
  rw [loresInEffect, loresInEffect]
  split
  · rfl
  · rcases lores with _ | ⟨lw, _ | ⟨lh, more⟩⟩ <;> rfl

theorem bitrateInEffect_take (w h : Int64) (rest : List Int64) (bitrate : Int64) :
    bitrateInEffect E c s (w :: h :: rest) bitrate = bitrateInEffect E c s [w, h] bitrate := by
  rw [bitrateInEffect, bitrateInEffect]
  split
  · rfl
  case h_2 tier _ => cases tier <;> rfl

theorem streamArucoMarkerId_pageStream (hF : E.float.Faithful) :
    streamArucoMarkerId (pageStream E.float.toFloatOps s) =
      E.float.json (streamArucoMarkerId s) := by
  have hflip : ∀ n : Int64, (if 0 ≤ n then n else 0) = if n < 0 then 0 else n := by
    intro n
    by_cases hn : n < 0
    · rw [if_pos hn, if_neg (Int64.not_le.mpr hn)]
    · rw [if_neg hn, if_pos (Int64.not_lt.mp hn)]
  change (if 0 ≤ E.float.json s.arucoMarkerId then E.float.json s.arucoMarkerId else 0) =
    E.float.json (if 0 ≤ s.arucoMarkerId then s.arucoMarkerId else 0)
  rw [hflip, hflip, hF.ite_neg_json]

theorem streamOverlayBurnEnabled_pageStream :
    streamOverlayBurnEnabled (pageStream E.float.toFloatOps s) = streamOverlayBurnEnabled s := by
  change (s.overlayEnabled && (s.overlayEnabled && s.overlayBurnEnabled.getD true)) = _
  rw [← Bool.and_assoc, Bool.and_self]
  rfl

section

variable {w h : Int64} {rest : List Int64} {pub : String} (hF : E.float.Faithful)
  (hwh : s.size = w :: h :: rest) (hw : E.float.json w = w) (hh : E.float.json h = h)

include hF hwh hw hh

theorem baseProfile_pageStream :
    baseProfile c (pageStream E.float.toFloatOps s) =
      { baseProfile c s with
        size := [w, h]
        loresSize := (cvLoresSizeForMain E.float.toFloatOps s.size).map E.float.json
        detectFrameSkip := E.float.json (baseProfile c s).detectFrameSkip
        overlayFrameSkip := E.float.json (baseProfile c s).overlayFrameSkip
        bitrate := E.float.json (baseProfile c s).bitrate } := by
  have hsize : (s.size.take 2).map E.float.json = [w, h] := by
    rw [hwh]
    exact congrArg₂ (fun a b ↦ [a, b]) hw hh
  obtain ⟨lw, lh, hlores⟩ := cvLoresSizeForMain_pair E.float.toFloatOps s.size
  have hbitrate : (if E.float.json (if s.bitrate ≤ 0 then 5000 else s.bitrate) ≤ 0 then 5000
      else E.float.json (if s.bitrate ≤ 0 then 5000 else s.bitrate)) =
        E.float.json (if s.bitrate ≤ 0 then 5000 else s.bitrate) := by
    rw [hF.ite_nonpos_json (by decide), ite_default_idem (· ≤ 0) (by decide) s.bitrate]
  dsimp only [baseProfile, pageStream]
  rw [hsize, hlores, hbitrate, hF.ite_nonpos_json (by decide) s.detectFrameSkip,
    hF.ite_nonpos_json (by decide) s.overlayFrameSkip]
  rfl

theorem buildStreamMemoryProfile_pageStream :
    buildStreamMemoryProfile E c (pageStream E.float.toFloatOps s) =
      { buildStreamMemoryProfile E c s with
        size := sizeInEffect E c s [w, h]
        loresSize := loresInEffect E c s.size
          ((cvLoresSizeForMain E.float.toFloatOps s.size).map E.float.json)
        detectFrameSkip := E.float.json (buildStreamMemoryProfile E c s).detectFrameSkip
        overlayFrameSkip := E.float.json (buildStreamMemoryProfile E c s).overlayFrameSkip
        bitrate := E.float.json (buildStreamMemoryProfile E c s).bitrate } := by
  have hsize : (baseProfile c s).size = s.size := if_neg (by simp [hwh])
  have hbase := baseProfile_pageStream (c := c) hF hwh hw hh
  have hself := buildStreamMemoryProfile_self (E := E) (c := c) (s := s)
  have hother := buildStreamMemoryProfile_update (E := E) (c := c) (s := s)
    (t := pageStream E.float.toFloatOps s)
    (p := baseProfile c (pageStream E.float.toFloatOps s)) rfl rfl
    (by rw [hbase, hsize, hwh]; exact fun _ _ ↦ rfl)
  have hdetect : (buildStreamMemoryProfile E c s).detectFrameSkip =
      detectInEffect E c s (baseProfile c s).detectFrameSkip := congrArg (·.detectFrameSkip) hself
  have hoverlay : (buildStreamMemoryProfile E c s).overlayFrameSkip =
      overlayInEffect E c (baseProfile c s).overlayFrameSkip :=
    congrArg (·.overlayFrameSkip) hself
  have hbitrate : (buildStreamMemoryProfile E c s).bitrate =
      bitrateInEffect E c s (baseProfile c s).size (baseProfile c s).bitrate :=
    congrArg (·.bitrate) hself
  rw [hother, hbase, hdetect, hoverlay, hbitrate, ← carried_detectInEffect hF,
    ← carried_overlayInEffect hF, ← carried_bitrateInEffect hF, hsize, hwh,
    loresInEffect_take w h rest, bitrateInEffect_take w h rest]

theorem payload_pageStream :
    payload E c pub (pageStream E.float.toFloatOps s) =
      { payload E c pub s with
        size := sizeInEffect E c s [w, h]
        encodeSize := sizeInEffect E c s [w, h]
        loresSize := loresInEffect E c s.size
          ((cvLoresSizeForMain E.float.toFloatOps s.size).map E.float.json)
        framerate := E.float.json (payload E c pub s).framerate
        bitrate := E.float.json (payload E c pub s).bitrate
        gateTimeoutMs := E.float.json (payload E c pub s).gateTimeoutMs
        detectFrameSkip := E.float.json (payload E c pub s).detectFrameSkip
        arucoMarkerId := E.float.json (payload E c pub s).arucoMarkerId
        overlayFrameSkip := E.float.json (payload E c pub s).overlayFrameSkip
        exposureTime := E.float.json (payload E c pub s).exposureTime
        landingFullframeFallback := s.landingFullframeFallback = some true } := by
  have hframerate : (if (pageStream E.float.toFloatOps s).framerate ≤ 0 then 30
      else (pageStream E.float.toFloatOps s).framerate) =
        E.float.json (if s.framerate ≤ 0 then 30 else s.framerate) :=
    (hF.ite_nonpos_json (by decide) _).trans
      (congrArg _ (ite_default_idem (· ≤ 0) (by decide) s.framerate))
  have hgate : (if (pageStream E.float.toFloatOps s).gateTimeoutMs < 0 then 0
      else (pageStream E.float.toFloatOps s).gateTimeoutMs) =
        E.float.json (if s.gateTimeoutMs < 0 then 0 else s.gateTimeoutMs) :=
    hF.ite_neg_json s.gateTimeoutMs
  have hkeyframe : keyframeIntervalOf (pageStream E.float.toFloatOps s).keyframeInterval =
      keyframeIntervalOf s.keyframeInterval := keyframeIntervalOf_json hF _
  have hformat : orDefault "BGR888" (pageStream E.float.toFloatOps s).format =
      orDefault "BGR888" s.format := orDefault_idem (by decide) s.format
  rw [payload, buildStreamMemoryProfile_pageStream hF hwh hw hh, hframerate, hgate, hkeyframe,
    hformat, streamArucoMarkerId_pageStream hF, streamOverlayBurnEnabled_pageStream]
  rfl

/-- A save of the page leaves the file of the stream as it is exactly when the stream gives what the
page does not. -/
theorem payload_pageStream_iff :
    payload E c (slotPath c s.cameraId) (pageStream E.float.toFloatOps s) =
      payload E c (slotPath c s.cameraId) s ↔ PageKeeps E c s := by
  generalize hpub : slotPath c s.cameraId = pub
  have hsize : (baseProfile c s).size = s.size := if_neg (by simp [hwh])
  have hself := buildStreamMemoryProfile_self (E := E) (c := c) (s := s)
  have hsize₀ : (payload E c pub s).size = sizeInEffect E c s s.size :=
    (congrArg (·.size) hself).trans (congrArg (sizeInEffect E c s) hsize)
  have hlores₀ : (payload E c pub s).loresSize = loresInEffect E c s.size
      (if s.loresSize.length < 2 then [320, 240] else s.loresSize) :=
    (congrArg (·.loresSize) hself).trans (congrArg (loresInEffect E c · _) hsize)
  have hcut : sizeInEffect E c s [w, h] = sizeInEffect E c s s.size ↔
      (sizeInEffect E c s s.size).length = 2 := by
    rw [hwh]
    exact sizeInEffect_take w h rest
  rw [payload_pageStream hF hwh hw hh]
  constructor
  · intro heq
    refine ⟨?_, hcut.mp ((congrArg (·.size) heq).trans hsize₀),
      (hlores₀.symm.trans (congrArg (·.loresSize) heq).symm), ?_⟩
    · have hlanding : decide (s.landingFullframeFallback = some true) =
          s.landingFullframeFallback.getD true := congrArg (·.landingFullframeFallback) heq
      cases hopen : s.landingFullframeFallback with
      | none => simp [hopen] at hlanding
      | some b => rfl
    · simp only [hpub, StreamerJSON.numbers, List.forall_mem_cons]
      exact ⟨congrArg (·.framerate) heq, congrArg (·.bitrate) heq, congrArg (·.gateTimeoutMs) heq,
        congrArg (·.detectFrameSkip) heq, congrArg (·.arucoMarkerId) heq,
        congrArg (·.overlayFrameSkip) heq, congrArg (·.exposureTime) heq,
        fun _ hn ↦ absurd hn List.not_mem_nil⟩
  · rintro ⟨hlanding, hlen, hlores, hnumbers⟩
    simp only [hpub, StreamerJSON.numbers, List.forall_mem_cons] at hnumbers
    obtain ⟨hframerate, hbitrate, hgate, hdetect, haruco, hoverlay, hexposure, -⟩ := hnumbers
    have hfallback : decide (s.landingFullframeFallback = some true) =
        (payload E c pub s).landingFullframeFallback := by
      obtain ⟨b, hb⟩ := Option.isSome_iff_exists.mp hlanding
      have hpayload : (payload E c pub s).landingFullframeFallback = b := by
        change s.landingFullframeFallback.getD true = b
        rw [hb]
        rfl
      rw [hpayload, hb]
      cases b <;> rfl
    have hsize₁ : sizeInEffect E c s [w, h] = (payload E c pub s).size :=
      (hcut.mpr hlen).trans hsize₀.symm
    rw [hframerate, hbitrate, hgate, hdetect, haruco, hoverlay, hexposure, hfallback, hsize₁,
      ← hlores, ← hlores₀]
    rfl

end

/-! ## The files of all streams -/

variable {text : ℚ → String} {doc : Yaml} {t : CameraStreamConfig}
  {streams : List CameraStreamConfig}

/-- What is read off all streams stays the same exactly when it does for the one that is put in the
place of another. -/
theorem map_putStream_eq_iff {β : Type} (f : CameraStreamConfig → β)
    (h : findStream t.cameraId streams = some s) :
    (putStream t streams).map f = streams.map f ↔ f t = f s := by
  rw [findStream] at h
  induction streams with
  | nil => cases h
  | cons u us ih =>
    rw [List.find?_cons] at h
    rw [putStream]
    by_cases hu : u.cameraId = t.cameraId
    · obtain rfl : u = s := by simpa [hu] using h
      simp [hu]
    · simp only [hu, decide_false] at h
      simp only [hu, if_false, List.map_cons, List.cons.injEq, true_and]
      exact ih h

/-- The record that is loaded after streams of a loaded record have been changed. -/
theorem load_save_streams (hload : load text doc = .ok c) (streams : List CameraStreamConfig) :
    load text (({ c with camera := { c.camera.ensureDefaultStreams with streams } } : Config).save
      text) =
      .ok { c with camera := { c.camera.ensureDefaultStreams with
        streams := streams.map (·.normalize) } } := by
  have hsaved : load text (c.save text) = .ok c := load_save_of_load hload
  have hfinish : c.finish = .ok c := load_save.symm.trans hsaved
  obtain ⟨hvalid, hfix⟩ := Config.finish_eq_ok.mp hfinish
  have hhz : c.camera.mavlinkStatusHz =
      if c.camera.mavlinkStatusHz ≤ 0 then 1 else c.camera.mavlinkStatusHz :=
    congrArg (·.camera.mavlinkStatusHz) hfix
  rw [load_save, Config.finish_eq_ok]
  refine ⟨hvalid, ?_⟩
  have hother : ({ c with camera := { c.camera.ensureDefaultStreams with streams } } :
      Config).setDefaults.normalizeCameraConfig =
        { c.setDefaults.normalizeCameraConfig with
          camera := { c.camera.ensureDefaultStreams with
            mavlinkStatusHz :=
              if c.camera.mavlinkStatusHz ≤ 0 then 1 else c.camera.mavlinkStatusHz
            streams := streams.map (·.normalize) } } := rfl
  rw [hother, ← hfix, ← hhz]
  rfl

theorem ensureDefaultStreams_update (camera : CameraConfig) (h : streams ≠ []) :
    { camera.ensureDefaultStreams with streams }.ensureDefaultStreams =
      { camera.ensureDefaultStreams with streams } := by
  have hprimary : (if camera.ensureDefaultStreams.primaryCameraId ≠ 0 ∧
      camera.ensureDefaultStreams.primaryCameraId ≠ 1 then 0
      else camera.ensureDefaultStreams.primaryCameraId) =
        camera.ensureDefaultStreams.primaryCameraId :=
    ite_default_idem (fun id : Int64 ↦ id ≠ 0 ∧ id ≠ 1) (by decide) camera.primaryCameraId
  obtain ⟨u, us, rfl⟩ := List.exists_cons_of_ne_nil h
  rw [CameraConfig.ensureDefaultStreams, hprimary]

/-- The files of a record whose stream `s` was replaced by `t`, which counts for the other streams
as `s` does. -/
theorem sync_putStream_iff (hid : droneID c ≠ "")
    (hs : findStream t.cameraId c.camera.ensureDefaultStreams.streams = some s)
    (hflags : t.flags = s.flags) :
    syncStreamerConfigFiles E { c with camera := { c.camera.ensureDefaultStreams with
        streams := (putStream t c.camera.ensureDefaultStreams.streams).map (·.normalize) } } =
      syncStreamerConfigFiles E c ↔
    payload E { c with camera := c.camera.ensureDefaultStreams }
        (slotPath { c with camera := c.camera.ensureDefaultStreams } s.cameraId) t =
      payload E { c with camera := c.camera.ensureDefaultStreams }
        (slotPath { c with camera := c.camera.ensureDefaultStreams } s.cameraId) s := by
  have hcam : t.cameraId = s.cameraId := by
    have hfound := List.find?_some hs
    simpa [eq_comm] using hfound
  have hne : (putStream t c.camera.ensureDefaultStreams.streams).map (·.normalize) ≠ [] :=
    fun hnil ↦ putStream_ne_nil t _ (List.map_eq_nil_iff.mp hnil)
  have hsame : ((putStream t c.camera.ensureDefaultStreams.streams).map (·.normalize)).map
      (·.flags) = c.camera.ensureDefaultStreams.streams.map (·.flags) := by
    rw [List.map_map]
    exact (map_putStream_eq_iff (fun u ↦ u.normalize.flags) hs).mpr hflags
  rw [syncStreamerConfigFiles_eq_ok hid, syncStreamerConfigFiles_eq_ok (c := { c with camera :=
    { c.camera.ensureDefaultStreams with streams := (putStream t
      c.camera.ensureDefaultStreams.streams).map (·.normalize) } }) hid,
    ensureDefaultStreams_update _ hne, Except.ok.injEq]
  -- The file of a stream is the same in both records, and for a stream that was put right.
  have hrecord : ∀ u, streamFile E { c with camera := { c.camera.ensureDefaultStreams with
      streams := (putStream t c.camera.ensureDefaultStreams.streams).map (·.normalize) } } u =
        streamFile E { c with camera := c.camera.ensureDefaultStreams } u := fun u ↦
    congrArg (Prod.mk _) (payload_congr (c := { c with camera := c.camera.ensureDefaultStreams })
      hsame)
  have hnormal : ∀ u, streamFile E { c with camera := c.camera.ensureDefaultStreams } u.normalize =
      streamFile E { c with camera := c.camera.ensureDefaultStreams } u := fun u ↦
    congrArg (Prod.mk _) payload_normalize
  rw [funext hrecord, List.map_map, funext (f := _ ∘ _) hnormal, map_putStream_eq_iff _ hs,
    streamFile, streamFile, hcam, Prod.mk.injEq]
  exact and_iff_right rfl

/-- The configuration file after a request, whatever its outcome. -/
def SaveOutcome.fileAfter (doc : Yaml) : SaveOutcome → Yaml
  | saved doc' => doc'
  | _ => doc

theorem apply_page (hs : findStream id c.camera.ensureDefaultStreams.streams = some s)
    (hid : E.float.json id = id) (hlen : 2 ≤ s.size.length) :
    (WebEdit.cameraStream (cameraConfigToUI E c id)).apply E.float.toFloatOps c =
      some { c with camera := { c.camera.ensureDefaultStreams with
        streams := putStream (pageStream E.float.toFloatOps s)
          c.camera.ensureDefaultStreams.streams } } := by
  have hstream : streamId (cameraConfigToUI E c id) = id := streamId_page.trans hid
  refine saveCameraStream_eq_some.mpr ⟨pageStream E.float.toFloatOps s, ?_, rfl⟩
  rw [hstream]
  change updateStream E.float.toFloatOps (cameraConfigToUI E c id)
    ((findStream id c.camera.ensureDefaultStreams.streams).getD (defaultStream id)) = _
  rw [cameraConfigToUI, hs]
  exact updateStream_streamPage hlen

/-- Without a size of two entries in store the page cannot be saved, since it gives one. -/
theorem apply_page_eq_none (hs : findStream id c.camera.ensureDefaultStreams.streams = some s)
    (hid : E.float.json id = id) (hlen : ¬ 2 ≤ s.size.length) :
    (WebEdit.cameraStream (cameraConfigToUI E c id)).apply E.float.toFloatOps c = none := by
  have hstream : streamId (cameraConfigToUI E c id) = id := streamId_page.trans hid
  have hgives : givesSize (cameraConfigToUI E c id) = true := by
    rw [cameraConfigToUI, hs, givesSize]
    have hlook : (streamPage E { c with camera := c.camera.ensureDefaultStreams } id s).lookup
        "size" = some (.arr ([640, 480].map E.float.number)) :=
      congrArg (fun l : List Int64 ↦ some (Json.arr (l.map E.float.number)))
        (if_pos (Nat.not_le.mp hlen))
    dsimp only [Option.getD_some]
    rw [hlook]
    rfl
  rw [apply_cameraStream_eq_none_iff, hstream, hs, Option.getD_some, updateStream_eq_none_iff]
  exact ⟨hgives, Nat.not_le.mp hlen⟩

theorem load_fileAfter_page (hload : load text doc = .ok c)
    (hs : findStream id c.camera.ensureDefaultStreams.streams = some s)
    (hid : E.float.json id = id) (hlen : 2 ≤ s.size.length) :
    load text ((saveCameraStreamFromUI text E.float.toFloatOps true (cameraConfigToUI E c id)
        doc).fileAfter doc) =
      .ok { c with camera := { c.camera.ensureDefaultStreams with
        streams := (putStream (pageStream E.float.toFloatOps s)
          c.camera.ensureDefaultStreams.streams).map (·.normalize) } } := by
  have hsaved : saveCameraStreamFromUI text E.float.toFloatOps true (cameraConfigToUI E c id)
      doc = .saved _ :=
    (saveCameraStreamFromUI_eq_saved hload).mpr ⟨rfl, _, apply_page hs hid hlen, rfl⟩
  rw [hsaved]
  exact load_save_streams hload _

/-- A file that nobody may write stays, and no save touches the id of the drone. -/
theorem exists_load_fileAfter (hload : load text doc = .ok c) (writable : Bool) (body : Body) :
    ∃ c', load text ((saveCameraStreamFromUI text E.float.toFloatOps writable body doc).fileAfter
        doc) = .ok c' ∧ droneID c' = droneID c ∧ (writable = false → c' = c) := by
  rw [saveCameraStreamFromUI, hload]
  dsimp only
  cases happly : (WebEdit.cameraStream body).apply E.float.toFloatOps c with
  | none => exact ⟨c, hload, rfl, fun _ ↦ rfl⟩
  | some c₁ =>
    cases writable with
    | false => exact ⟨c, hload, rfl, fun _ ↦ rfl⟩
    | true =>
      obtain ⟨-, s, -, -, rfl⟩ := saveCameraStream_spec happly
      exact ⟨_, load_save_streams hload _, rfl, fun h ↦ absurd h.symm Bool.false_ne_true⟩

/-- **Saving the page back.** The files of all streams are the same after it exactly when nothing is
saved or written, or the stream gives what the page does not. Strings are taken to survive the text
of the file (see `Config.save`). -/
theorem page_save_keeps_iff {writable : Bool} (hF : E.float.Faithful)
    (hload : load text doc = .ok c)
    (hs : findStream id c.camera.ensureDefaultStreams.streams = some s)
    (hid : writable = true → droneID c ≠ "" → E.float.json id = id)
    (hsize : writable = true → droneID c ≠ "" → 2 ≤ s.size.length →
      ∀ n ∈ s.size.take 2, E.float.json n = n) :
    ∃ c', load text ((saveCameraStreamFromUI text E.float.toFloatOps writable
        (cameraConfigToUI E c id) doc).fileAfter doc) = .ok c' ∧
      (syncStreamerConfigFiles E c' = syncStreamerConfigFiles E c ↔
        (writable = true → droneID c ≠ "" → 2 ≤ s.size.length →
          PageKeeps E { c with camera := c.camera.ensureDefaultStreams } s)) := by
  obtain ⟨c', hload', huuid', hfixed⟩ :=
    exists_load_fileAfter (E := E) hload writable (cameraConfigToUI E c id)
  cases writable with
  | false =>
    refine ⟨c', hload', iff_of_true ?_ fun h ↦ absurd h Bool.false_ne_true⟩
    rw [hfixed rfl]
  | true =>
    by_cases huuid : droneID c = ""
    · refine ⟨c', hload', iff_of_true ?_ fun _ h ↦ absurd huuid h⟩
      rw [syncStreamerConfigFiles_eq_error huuid]
      exact syncStreamerConfigFiles_eq_error (huuid'.trans huuid)
    have hid := hid rfl huuid
    by_cases hlen : 2 ≤ s.size.length
    case neg =>
      have hpanic : saveCameraStreamFromUI text E.float.toFloatOps true
          (cameraConfigToUI E c id) doc = .panic :=
        (saveCameraStreamFromUI_eq_panic hload).mpr (apply_page_eq_none hs hid hlen)
      rw [hpanic]
      exact ⟨c, hload, iff_of_true rfl fun _ _ h ↦ absurd h hlen⟩
    refine ⟨_, load_fileAfter_page hload hs hid hlen, ?_⟩
    have hcam : s.cameraId = id := by simpa using List.find?_some hs
    obtain ⟨w, h, rest, hwh⟩ := exists_cons_cons hlen
    have hsize := hsize rfl huuid hlen
    rw [hwh] at hsize
    have hw : E.float.json w = w := hsize w (by simp)
    have hh : E.float.json h = h := hsize h (by simp)
    have hs' : findStream (pageStream E.float.toFloatOps s).cameraId
        c.camera.ensureDefaultStreams.streams = some s := hcam ▸ hs
    rw [sync_putStream_iff huuid hs' rfl, payload_pageStream_iff hF hwh hw hh]
    exact ⟨fun hk _ _ _ ↦ hk, fun hk ↦ hk rfl huuid hlen⟩

end

/-! ## Two files -/

theorem FloatOps.faithful_exact : FloatOps.exact.Faithful where
  exact _ _ _ := rfl
  mono _ _ h := Rat.intCast_le_intCast.mpr h

/-- A board whose memory is not known. -/
def plainEnv : StreamerEnv := ⟨.exact, 0, false⟩

/-- A file with the id of a drone and these settings of the camera. -/
def cameraFile (camera : List (String × Yaml)) : Yaml :=
  .map [("auth", .map [("uuid", .str "drone-7")]), ("camera", .map camera),
    ("network", .map [("local_listen_port", .int 14550), ("target_host", .str "10.0.0.1"),
      ("target_port", .int 14550)]),
    ("web", .map [("port", .int 8080)])]

/-- Its stream gives the landing fallback, and has a size that is small enough for detection. -/
def settledFile : Yaml :=
  cameraFile [("streams", .seq [.map [("camera_id", .int 1), ("size", .seq [.int 320, .int 240]),
    ("landing_fullframe_fallback", .bool true)]])]

theorem page_save_keeps_settled :
    ∃ c c', load toString settledFile = .ok c ∧
      load toString ((saveCameraStreamFromUI toString .exact true (cameraConfigToUI plainEnv c 1)
        settledFile).fileAfter settledFile) = .ok c' ∧
      syncStreamerConfigFiles plainEnv c' = syncStreamerConfigFiles plainEnv c := by
  have hload : load toString settledFile = .ok _ := rfl
  have hF : plainEnv.float.Faithful := FloatOps.faithful_exact
  have hsmall : ∀ l : List Int64, l.all (decide <| FloatOps.Small ·) = true →
      ∀ n ∈ l, plainEnv.float.json n = n := fun l hl n hn ↦
    hF.json_eq (of_decide_eq_true (List.all_eq_true.mp hl n hn))
  obtain ⟨c', hload', hkeeps⟩ : ∃ c', load toString ((saveCameraStreamFromUI toString .exact true
      (cameraConfigToUI plainEnv _ 1) settledFile).fileAfter settledFile) = .ok c' ∧ _ :=
    page_save_keeps_iff hF hload rfl (fun _ _ ↦ hF.json_eq (by decide))
      fun _ _ _ ↦ hsmall [320, 240] rfl
  exact ⟨_, c', hload, hload', hkeeps.mpr fun _ _ _ ↦ ⟨rfl, rfl, rfl, hsmall _ rfl⟩⟩

/-- The default stream of camera 0 leaves its landing fallback open. It is on before the page is
saved back, and off after that. -/
theorem page_save_turns_fallback_off :
    ∃ c c', load toString (cameraFile []) = .ok c ∧
      load toString ((saveCameraStreamFromUI toString .exact true (cameraConfigToUI plainEnv c 0)
        (cameraFile [])).fileAfter (cameraFile [])) = .ok c' ∧
      (syncStreamerConfigFiles plainEnv c).map (·.map (·.2.landingFullframeFallback)) =
        .ok [true, true] ∧
      (syncStreamerConfigFiles plainEnv c').map (·.map (·.2.landingFullframeFallback)) =
        .ok [false, true] := by
  have hload : load toString (cameraFile []) = .ok _ := rfl
  have hid : plainEnv.float.json 0 = 0 := FloatOps.faithful_exact.json_eq (by decide)
  have hlanding : ∀ c : Config, droneID c ≠ "" →
      (syncStreamerConfigFiles plainEnv c).map (·.map (·.2.landingFullframeFallback)) =
        .ok (c.camera.ensureDefaultStreams.streams.map streamLandingFullframeFallback) := by
    intro c hc
    rw [syncStreamerConfigFiles_eq_ok hc, Except.map, List.map_map]
    rfl
  have hload' := load_fileAfter_page hload rfl hid le_rfl
  exact ⟨_, _, hload, hload', hlanding _ (by decide), hlanding _ (by decide)⟩

end DroneBridge
