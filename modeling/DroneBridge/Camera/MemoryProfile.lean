import DroneBridge.Camera.Limits
import DroneBridge.Camera.Page

/-!
# Memory profiles of the boards

A stream has one profile on each of the three boards. All of its values but the size grow with the
memory. The size does not: a board of 2 GB leaves a stream alone that no program looks at, where a
board of 4 GB cuts it, and in low memory mode a size that was cut once is cut again.

On a board of 4 GB with several streams that programs look at, the second one has limits of its own.
They are set before those of large sizes, which set the same values again.
-/

namespace DroneBridge

open StreamUse

variable {E : StreamerEnv} {F : CameraFloat} {c : Config} {s : CameraStreamConfig}
  {use : StreamUse} {w h maxW maxH : Int64} {rest : List Int64}

/-! ## The values of a profile -/

theorem profile_size : (buildStreamMemoryProfile E c s).size =
    sizeInEffect E c s (baseProfile c s).size :=
  congrArg StreamMemoryProfile.size buildStreamMemoryProfile_self

theorem profile_loresSize : (buildStreamMemoryProfile E c s).loresSize =
    loresInEffect E c (baseProfile c s).size (baseProfile c s).loresSize :=
  congrArg StreamMemoryProfile.loresSize buildStreamMemoryProfile_self

theorem profile_bitrate : (buildStreamMemoryProfile E c s).bitrate =
    bitrateInEffect E c s (baseProfile c s).size (baseProfile c s).bitrate :=
  congrArg StreamMemoryProfile.bitrate buildStreamMemoryProfile_self

theorem tierInEffect_of_auto (hauto : c.camera.autoMemoryProfile = true) :
    tierInEffect E c = some (detectMemoryTier E.memTotalKB) := if_pos hauto

/-- The limits of low memory mode, on a size. -/
def lowMemorySize (F : CameraFloat) (low : Bool) (size : List Int64) : List Int64 :=
  if low ∧ exceeds 640 480 size then capSizeTo F 640 480 size else size

theorem profile_size_of_auto (hauto : c.camera.autoMemoryProfile = true) :
    (buildStreamMemoryProfile E c s).size =
      lowMemorySize E.float c.camera.lowMemoryMode
        ((streamUse c s).limitSize E.float (detectMemoryTier E.memTotalKB)
          (baseProfile c s).size) := by
  rw [profile_size, sizeInEffect, tierInEffect_of_auto hauto]
  rfl

/-- Sorting the enabled streams does not change how many are looked at. -/
theorem countCVStreams_sorted :
    countCVStreams (enabledStreamsSorted c) = countCVStreams c.camera.streams := by
  rw [countCVStreams, enabledStreamsSorted, (List.perm_insertionSort _ _).countP_eq,
    List.countP_filter, countCVStreams]
  refine List.countP_congr fun s _ ↦ ?_
  simp +contextual

/-! ## Sizes in low memory mode -/

theorem exceeds_cons :
    exceeds maxW maxH (w :: h :: rest) = true ↔ maxW * maxH < w * h := by
  simp [exceeds]

theorem not_exceeds_cons :
    exceeds maxW maxH (w :: h :: rest) = false ↔ w * h ≤ maxW * maxH := by
  rw [← Bool.not_eq_true, exceeds_cons, Int64.not_lt]

theorem not_exceeds_of_pixels_le (hw : 1 ≤ w.toInt) (hh : 1 ≤ h.toInt)
    (hle : pixels [w, h] ≤ 640 * 480) : exceeds 640 480 [w, h] = false := by
  have hpos : 0 ≤ w.toInt * h.toInt := by positivity
  rw [not_exceeds_cons, Int64.le_iff_toInt_le]
  exact (toInt_mul_le hpos).trans hle

/-- **Low memory mode brings every size of a board within 640x480.** -/
theorem pixels_lowMemorySize_le_iff (hF : F.IsBinary64) {low : Bool} (hw : 1 ≤ w.toInt)
    (hh : 1 ≤ h.toInt) (hlt : pixels [w, h] < 2 ^ 63) :
    pixels (lowMemorySize F low [w, h]) ≤ 640 * 480 ↔
      low = true ∨ pixels [w, h] ≤ 640 * 480 := by
  have hpos : 0 < w.toInt * h.toInt := by positivity
  rw [lowMemorySize]
  split_ifs with hcut
  · refine iff_of_true ?_ (Or.inl hcut.1)
    exact hF.pixels_capSizeTo_le ⟨by decide, by decide⟩ (by decide) (by decide) hpos
      (exceeds_cons.mp hcut.2)
  · refine ⟨Or.inr, ?_⟩
    rintro (hlow | hle)
    · have hexceeds : exceeds 640 480 [w, h] = false := by
        rw [Bool.eq_false_iff]
        exact fun h ↦ hcut ⟨hlow, h⟩
      rw [not_exceeds_cons, Int64.le_iff_toInt_le, toInt_mul_of_lt hpos.le hlt] at hexceeds
      exact hexceeds
    · exact hle

/-! ## The second stream on a board of 4 GB -/

theorem toInt_minInt (a b : Int64) : (minInt a b).toInt = min a.toInt b.toInt := by
  rw [minInt]
  split_ifs with h <;> rw [Int64.lt_iff_toInt_lt] at h <;> omega

theorem toInt_maxInt (a b : Int64) : (maxInt a b).toInt = max a.toInt b.toInt := by
  rw [maxInt]
  split_ifs with h <;> rw [Int64.lt_iff_toInt_lt] at h <;> omega

theorem minInt_le_iff {a b k : Int64} : minInt a b ≤ k ↔ a ≤ k ∨ b ≤ k := by
  simp only [Int64.le_iff_toInt_le, toInt_minInt, min_le_iff]

theorem base_bitrate_le_iff {k : Int64} (hk : k < 5000) :
    (baseProfile c s).bitrate ≤ k ↔ 0 < s.bitrate ∧ s.bitrate ≤ k := by
  dsimp only [baseProfile]
  split_ifs with h
  · exact iff_of_false (Int64.not_le.mpr hk) fun hpos ↦ Int64.not_le.mpr hpos.1 h
  · rw [and_iff_right (Int64.not_le.mp h)]

/-- With two streams that programs look at, the second of them is cut to 640x480. -/
theorem cutsSecond_of_second (hcount : 2 ≤ countCVStreams c.camera.streams)
    (hcv : streamUsesCV s = true) (hsecond : s.cameraId ≠ c.camera.primaryCameraId)
    (size : List Int64) : (streamUse c s).cutsSecond size = exceeds 640 480 size := by
  have hmulti : 1 < (enabledStreamsSorted c).length := by
    have hle : countCVStreams (enabledStreamsSorted c) ≤ _ := List.countP_le_length
    rw [countCVStreams_sorted] at hle
    omega
  simp [cutsSecond, streamUse, hcv, hsecond, countCVStreams_sorted, hcount, hmulti]

/-- **When the second stream keeps to 640x480 and 4000.** A size above 960x720 is cut to that once
more and its bitrate limited to 5000. The stream then needs a lower bitrate of its own, and low
memory mode or a ratio far from 4:3. -/
theorem second_stream_limits_iff (hF : E.float.IsBinary64)
    (htier : detectMemoryTier E.memTotalKB = .tier4GB) (hauto : c.camera.autoMemoryProfile = true)
    (hcount : 2 ≤ countCVStreams c.camera.streams) (hcv : streamUsesCV s = true)
    (hsecond : s.cameraId ≠ c.camera.primaryCameraId) (hsize : s.size = w :: h :: rest)
    (hbig : 640 * 480 < w.toInt * h.toInt) :
    pixels (buildStreamMemoryProfile E c s).size ≤ 640 * 480 ∧
        (buildStreamMemoryProfile E c s).bitrate ≤ 4000 ↔
      640 * 480 < w * h ∧ (w * h ≤ 960 * 720 ∨ (0 < s.bitrate ∧ s.bitrate ≤ 4000) ∧
        (c.camera.lowMemoryMode = true ∨ 320 / 107 < aspectRatio E.float w h ∨
          aspectRatio E.float w h < 427 / 720)) := by
  have hpos : 0 < w.toInt * h.toInt := by omega
  have hbase : (baseProfile c s).size = w :: h :: rest := by simp [baseProfile, hsize]
  have hcap : IsCap 960 720 := ⟨by decide, by decide⟩
  have hcap' : IsCap 640 480 := ⟨by decide, by decide⟩
  rw [profile_size_of_auto hauto, profile_bitrate, bitrateInEffect, tierInEffect_of_auto hauto,
    htier, hbase]
  dsimp only [limitSize, limitBitrate]
  rw [cutsSecond_of_second hcount hcv hsecond]
  -- Above 960x720 the first cap applies, and the second only in low memory mode.
  by_cases h960 : (960 * 720 : Int64) < w * h
  · have h640 : (640 * 480 : Int64) < w * h := Int64.lt_trans (by decide) h960
    obtain ⟨w', h', hcut, hw', hh'⟩ : ∃ w' h' : Int64,
        capSizeTo E.float 960 720 (w :: h :: rest) = [w', h'] ∧ 1 ≤ w'.toInt ∧ 1 ≤ h'.toInt :=
      exists_capSizeTo_cut hcap h960
    have hle : pixels [w', h'] ≤ _ :=
      hcut ▸ hF.pixels_capSizeTo_le hcap (by decide) (by decide) hpos h960
    have hratio : pixels [w', h'] ≤ _ ↔ _ := hcut ▸ hF.pixels_capSizeTo_960_le_iff hpos h960
    have hlow : pixels (lowMemorySize E.float c.camera.lowMemoryMode [w', h']) ≤ 640 * 480 ↔ _ :=
      pixels_lowMemorySize_le_iff hF hw' hh' (hle.trans_lt (by decide))
    have hbitrate : minInt (baseProfile c s).bitrate 5000 ≤ 4000 ↔
        0 < s.bitrate ∧ s.bitrate ≤ 4000 := by
      rw [minInt_le_iff, or_iff_left (by decide), base_bitrate_le_iff (by decide)]
    rw [if_pos (exceeds_cons.mpr h960), if_pos (exceeds_cons.mpr h960), and_iff_right h640,
      or_iff_right (Int64.not_le.mpr h960), hcut, hlow, hratio, hbitrate, and_comm]
  · have hle960 := Int64.not_lt.mp h960
    have hnot960 : ¬ exceeds 960 720 (w :: h :: rest) = true := by rwa [exceeds_cons]
    rw [if_neg hnot960, if_neg hnot960]
    by_cases h640 : (640 * 480 : Int64) < w * h
    · obtain ⟨w', h', hcut, hw', hh'⟩ : ∃ w' h' : Int64,
          capSizeTo E.float 640 480 (w :: h :: rest) = [w', h'] ∧ 1 ≤ w'.toInt ∧ 1 ≤ h'.toInt :=
        exists_capSizeTo_cut hcap' h640
      have hle : pixels [w', h'] ≤ 640 * 480 :=
        hcut ▸ hF.pixels_capSizeTo_le hcap' (by decide) (by decide) hpos h640
      rw [if_pos (exceeds_cons.mpr h640), if_pos (exceeds_cons.mpr h640), hcut,
        pixels_lowMemorySize_le_iff hF hw' hh' (hle.trans_lt (by decide))]
      exact iff_of_true ⟨Or.inr hle, minInt_le_iff.mpr (Or.inr (by decide))⟩ ⟨h640, Or.inl hle960⟩
    · have hsmall : ¬ exceeds 640 480 (w :: h :: rest) = true := by rwa [exceeds_cons]
      rw [if_neg hsmall, if_neg hsmall, lowMemorySize, if_neg fun hlow ↦ hsmall hlow.2]
      exact iff_of_false (fun hpixels ↦ absurd hpixels.1 (not_le.mpr hbig)) fun hcond ↦ h640 hcond.1

/-- A board with so much memory, in kB. -/
def boardEnv (kb : Int64) : StreamerEnv := ⟨.binary64, kb, false⟩

/-- A file with two enabled streams. Programs look at both of them, or at neither. -/
def boardFile (cv : Bool) (w h bitrate : ℤ) : Yaml :=
  cameraFile [("auto_memory_profile", .bool true), ("streams", .seq [
    .map [("camera_id", .int 0), ("enabled", .bool true), ("detection_enabled", .bool cv)],
    .map [("camera_id", .int 1), ("enabled", .bool true), ("detection_enabled", .bool cv),
      ("size", .seq [.int w, .int h]), ("bitrate", .int bitrate)]])]

theorem second_stream_limits_800 :
    ∃ c s, load toString (boardFile true 800 600 5000) = .ok c ∧ s ∈ c.camera.streams ∧
      pixels (buildStreamMemoryProfile (boardEnv 4000000) c s).size ≤ 640 * 480 ∧
      (buildStreamMemoryProfile (boardEnv 4000000) c s).bitrate ≤ 4000 := by
  have hload : load toString (boardFile true 800 600 5000) = .ok _ := rfl
  refine ⟨_, _, hload, List.mem_cons_of_mem _ List.mem_cons_self, ?_⟩
  exact (second_stream_limits_iff CameraFloat.isBinary64_binary64 rfl rfl (by decide) rfl
    (by decide) rfl (by decide)).mpr ⟨by decide, Or.inl (by decide)⟩

/-- The second of two streams that are looked at, with 1280x960, is not limited to 640x480. -/
theorem second_stream_beyond_limits :
    ∃ c s, load toString (boardFile true 1280 960 5000) = .ok c ∧ s ∈ c.camera.streams ∧
      detectMemoryTier (boardEnv 4000000).memTotalKB = .tier4GB ∧
      c.camera.autoMemoryProfile = true ∧ countCVStreams c.camera.streams = 2 ∧
      streamUsesCV s = true ∧ s.cameraId ≠ c.camera.primaryCameraId ∧
      s.size = [1280, 960] ∧
      (buildStreamMemoryProfile (boardEnv 4000000) c s).size = [960, 720] ∧
      (buildStreamMemoryProfile (boardEnv 4000000) c s).bitrate = 5000 := by
  have hload : load toString (boardFile true 1280 960 5000) = .ok _ := rfl
  refine ⟨_, _, hload, List.mem_cons_of_mem _ List.mem_cons_self, ?_⟩
  decide +kernel

/-! ## Boards compared -/

/-- A profile that is not heavier than another. -/
structure StreamMemoryProfile.AtMost (p q : StreamMemoryProfile) : Prop where
  size : pixels p.size ≤ pixels q.size
  loresSize : pixels p.loresSize ≤ pixels q.loresSize
  bitrate : p.bitrate ≤ q.bitrate
  bufferCount : p.bufferCount ≤ q.bufferCount

/-- The buffers of a board, where `n` are configured. -/
def StreamUse.limitBuffers (use : StreamUse) (tier : MemoryTier) (n : Int64) : Int64 :=
  match tier with
  | .tier2GB => 2
  | .tier4GB => if !use.multiCam ∨ use.cvCount ≤ 1 then 3 else 2
  | .tier8GB => if use.multiCam ∧ 2 ≤ use.cvCount then 3 else minInt (maxInt n 3) 4

theorem tierLimits_bufferCount (tier : MemoryTier) (p : StreamMemoryProfile) :
    (tierLimits F tier use p).bufferCount = use.limitBuffers tier p.bufferCount := by
  cases tier with
  | tier2GB =>
    dsimp only [tierLimits, limitBuffers]
    split_ifs <;> rfl
  | tier4GB =>
    dsimp only [tierLimits]
    split_ifs <;> simp_all [limitBuffers]
  | tier8GB =>
    dsimp only [tierLimits, limitBuffers]
    split_ifs <;> rfl

theorem profile_bufferCount (hauto : c.camera.autoMemoryProfile = true) :
    (buildStreamMemoryProfile E c s).bufferCount =
      let n := (streamUse c s).limitBuffers (detectMemoryTier E.memTotalKB)
        (baseProfile c s).bufferCount
      if c.camera.lowMemoryMode then minInt n 2 else n := by
  rw [buildStreamMemoryProfile, if_pos hauto, ← tierLimits_bufferCount]
  dsimp only
  split_ifs <;> rfl

/-- The board with the next larger memory. -/
def MemoryTier.next : MemoryTier → MemoryTier
  | tier2GB => tier4GB
  | tier4GB => tier8GB
  | tier8GB => tier8GB

theorem limitBuffers_le_next (tier : MemoryTier) (n : Int64) :
    use.limitBuffers tier n ≤ use.limitBuffers tier.next n := by
  have hsome : 3 ≤ minInt (maxInt n 3) 4 := by
    rw [Int64.le_iff_toInt_le, toInt_minInt, toInt_maxInt]
    exact le_min (le_max_right _ _) (by decide)
  cases tier with
  | tier2GB =>
    dsimp only [limitBuffers, MemoryTier.next]
    split_ifs <;> decide
  | tier4GB =>
    dsimp only [limitBuffers, MemoryTier.next]
    split_ifs
    · decide
    · exact hsome
    · decide
    · exact Int64.le_trans (by decide) hsome
  | tier8GB => exact Int64.le_refl _

theorem limitBitrate_le_next (tier : MemoryTier) (size : List Int64) (b : Int64) :
    use.limitBitrate tier size b ≤ use.limitBitrate tier.next size b := by
  have hconst : (3000 : Int64).toInt = 3000 ∧ (3500 : Int64).toInt = 3500 ∧
      (4000 : Int64).toInt = 4000 ∧ (5000 : Int64).toInt = 5000 := by decide
  cases tier with
  | tier2GB =>
    dsimp only [limitBitrate, MemoryTier.next]
    split_ifs <;> simp only [Int64.le_iff_toInt_le, toInt_minInt] <;> omega
  | tier4GB =>
    dsimp only [limitBitrate, MemoryTier.next]
    split_ifs <;> simp only [Int64.le_iff_toInt_le, toInt_minInt] <;> omega
  | tier8GB => exact Int64.le_refl _

theorem pixels_loresForTier_le_next (tier : MemoryTier) (size user : List Int64) :
    pixels (loresForTier tier size user) ≤ pixels (loresForTier tier.next size user) := by
  have hforMain : pixels (loresForTier.forMain tier size) ≤
      pixels (loresForTier.forMain tier.next size) := by
    dsimp only [loresForTier.forMain]
    cases tier <;> split_ifs <;> decide
  match user with
  | [] => exact hforMain
  | [_] => exact hforMain
  | lw :: lh :: _ =>
    by_cases hpos : 0 < lw ∧ 0 < lh
    · have hmul : (lw * lh).toInt ≤ pixels [lw, lh] :=
        toInt_mul_le (mul_nonneg (Int64.lt_iff_toInt_lt.mp hpos.1).le
          (Int64.lt_iff_toInt_lt.mp hpos.2).le)
      have hsmall : (240 * 180 : Int64).toInt = pixels [240, 180] := by decide
      have hlarge : (320 * 240 : Int64).toInt = pixels [320, 240] := by decide
      have hle : pixels [240, 180] ≤ pixels [320, 240] := by decide
      simp only [loresForTier, if_pos hpos]
      cases tier with
      | tier2GB =>
        simp only [MemoryTier.next, Int64.lt_iff_toInt_lt, hsmall, hlarge]
        split_ifs <;> omega
      | tier4GB =>
        simp only [MemoryTier.next, Int64.lt_iff_toInt_lt, hlarge]
        split_ifs <;> omega
      | tier8GB => exact le_rfl
    · simp only [loresForTier, if_neg hpos]
      exact hforMain

/-! ### Sizes -/

/-- A board of 2 GB cuts a stream that a program looks at to 640x480. -/
theorem pixels_limitSize_two_of_cv (hcv : use.hasCV = true) :
    pixels (use.limitSize F .tier2GB (w :: h :: rest)) =
      pixels (capSizeTo F 640 480 (w :: h :: rest)) := by
  dsimp only [limitSize]
  simp only [hcv, true_and, exceeds_cons]
  split_ifs with h640 h960
  · rfl
  · exact absurd (Or.inr (Int64.lt_trans (by decide) h960)) h640
  · rw [capSizeTo_of_le (Int64.not_lt.mp fun hlt ↦ h640 (Or.inr hlt))]
    rfl

/-- In low memory mode a size that no board has cut is cut to 640x480. -/
theorem pixels_lowMemorySize_self :
    pixels (lowMemorySize F true (w :: h :: rest)) =
      pixels (capSizeTo F 640 480 (w :: h :: rest)) := by
  rw [lowMemorySize]
  split_ifs with hcut
  · rfl
  · rw [capSizeTo_of_le]
    · rfl
    · exact Int64.not_lt.mp fun h ↦ hcut ⟨rfl, exceeds_cons.mpr h⟩

/-- The pixels of a size that is cut to a cap and then to 640x480. -/
def cutTwice (F : CameraFloat) (maxW maxH : Int64) (size : List Int64) : ℤ :=
  pixels (capSizeTo F 640 480 (capSizeTo F maxW maxH size))

/-- Pixels on the three boards that do not shrink, for a size of `n` pixels. Up to 1920x1080 the
board of 8 GB leaves what the board of 2 GB does. -/
def NoFewer (n : Int64) (p₂ p₄ p₈ : ℤ) : Prop :=
  if n ≤ 1920 * 1080 then p₂ = p₄ else p₂ ≤ p₄ ∧ p₄ ≤ p₈
  deriving Decidable

/-- When a board with more memory leaves as many pixels in low memory mode. Only the ratio of the
size matters, and how far its pixels go beyond 960x720. -/
def LowMemoryGrows (F : CameraFloat) : List Int64 → Prop
  | w :: h :: _ =>
    let ratio := aspectRatio F w h
    w * h ≤ 960 * 720 ∨
      if F.const (4 / 3 + 1 / 20) < ratio then
        NoFewer (w * h) (640 * (cutRows F 640 ratio).toInt) (wideTwice F 960 ratio)
          (wideTwice F 1920 ratio)
      else if ratio < F.const (4 / 3 - 1 / 20) then
        NoFewer (w * h) ((cutColumns F 480 ratio).toInt * 480) (tallTwice F 720 ratio)
          (tallTwice F 1080 ratio)
      else w * h ≤ 1920 * 1080
  | _ => True

instance : DecidablePred (LowMemoryGrows F) := fun size ↦ by
  unfold LowMemoryGrows
  split <;> infer_instance

theorem noFewer_iff {n : Int64} {p₂ p₄ p₈ q : ℤ} (hle : n ≤ 1920 * 1080 → q = p₂)
    (hlt : 1920 * 1080 < n → q = p₈) : p₂ ≤ p₄ ∧ p₄ ≤ q ↔ NoFewer n p₂ p₄ p₈ := by
  rw [NoFewer]
  split_ifs with h
  · rw [hle h]
    exact ⟨fun hboth ↦ le_antisymm hboth.1 hboth.2, fun heq ↦ ⟨heq.le, heq.ge⟩⟩
  · rw [hlt (Int64.not_le.mp h)]

theorem cutTwice_of_le (hle : w * h ≤ maxW * maxH) :
    cutTwice F maxW maxH (w :: h :: rest) = pixels (capSizeTo F 640 480 (w :: h :: rest)) := by
  rw [cutTwice, capSizeTo_of_le hle]
  rfl

theorem pixels_low_cap (hcap : IsCap maxW maxH) :
    pixels (lowMemorySize F true (if exceeds maxW maxH (w :: h :: rest)
        then capSizeTo F maxW maxH (w :: h :: rest) else w :: h :: rest)) =
      cutTwice F maxW maxH (w :: h :: rest) := by
  simp only [exceeds_cons]
  split_ifs with hcut
  · obtain ⟨w', h', heq, -⟩ :
        ∃ w' h' : Int64, capSizeTo F maxW maxH (w :: h :: rest) = [w', h'] ∧ _ :=
      exists_capSizeTo_cut hcap hcut
    rw [cutTwice, heq, pixels_lowMemorySize_self]
  · rw [cutTwice_of_le (Int64.not_lt.mp hcut), pixels_lowMemorySize_self]

/-- A size in the band around 4:3 is cut to the cap itself, and 1920x1080 is not in the band. -/
theorem cutTwice_band (hF : F.IsBinary64)
    (hwide : ¬ F.const (4 / 3 + 1 / 20) < aspectRatio F w h)
    (htall : ¬ aspectRatio F w h < F.const (4 / 3 - 1 / 20)) (hcut : (960 * 720 : Int64) < w * h) :
    pixels (capSizeTo F 640 480 (w :: h :: rest)) ≤ cutTwice F 960 720 (w :: h :: rest) ∧
        cutTwice F 960 720 (w :: h :: rest) ≤ cutTwice F 1920 1080 (w :: h :: rest) ↔
      w * h ≤ 1920 * 1080 := by
  have hcap : IsCap 640 480 := ⟨by decide, by decide⟩
  have hband : ∀ {maxW maxH : Int64}, IsCap maxW maxH → maxW * maxH < w * h →
      capSizeTo F maxW maxH (w :: h :: rest) = [maxW, maxH] := by
    intro maxW maxH hcap hcut
    rw [capSizeTo_cut hcap hcut, if_neg hwide, if_neg htall]
  have hfour : capSizeTo F 640 480 [960, 720] = [640, 480] :=
    hF.capSizeTo_four_thirds hcap (by decide) (by decide) (by decide) (by decide) (by decide)
      (by decide)
  have hcut' : (640 * 480 : Int64) < w * h := Int64.lt_trans (by decide) hcut
  rw [cutTwice, hband ⟨by decide, by decide⟩ hcut, hfour]
  by_cases h1920 : w * h ≤ 1920 * 1080
  · rw [cutTwice_of_le h1920, hband hcap hcut']
    exact iff_of_true ⟨le_rfl, le_rfl⟩ h1920
  · -- The detour by 1920x1080 leaves a 16:9 size, which is then cut to fewer rows.
    have hless : pixels (capSizeTo F 640 480 [1920, 1080]) < pixels [640, 480] := by
      simp only [capSizeTo, hF.ofInt, hF.div, hF.mul, hF.const]
      decide +kernel
    rw [cutTwice, hband ⟨by decide, by decide⟩ (Int64.not_le.mp h1920)]
    exact iff_of_false (fun hle ↦ absurd hle.2 (not_le.mpr hless)) h1920

section

variable (hF : F.IsBinary64) (hw : 1 ≤ w.toInt) (hh : 1 ≤ h.toInt)

include hF hw hh

theorem pixels_capSizeTo_640_le_self :
    pixels (capSizeTo F 640 480 (w :: h :: rest)) ≤ pixels (w :: h :: rest) := by
  have hcap : IsCap 640 480 := ⟨by decide, by decide⟩
  have hpos : 0 < w.toInt * h.toInt := by positivity
  by_cases hcut : (640 * 480 : Int64) < w * h
  · exact (hF.pixels_capSizeTo_le hcap (by decide) (by decide) hpos hcut).trans
      (lt_pixels_of_cut hcap hpos.le hcut).le
  · rw [capSizeTo_of_le (Int64.not_lt.mp hcut)]
    exact le_rfl

/-- **A board of 8 GB leaves at least as many pixels as one of 4 GB.** -/
theorem pixels_limitSize_four_le_eight :
    pixels (use.limitSize F .tier4GB (w :: h :: rest)) ≤
      pixels (use.limitSize F .tier8GB (w :: h :: rest)) := by
  have hpos : 0 < w.toInt * h.toInt := by positivity
  have hcap : IsCap 960 720 := ⟨by decide, by decide⟩
  have hcap' : IsCap 1920 1080 := ⟨by decide, by decide⟩
  dsimp only [limitSize]
  simp only [exceeds_cons]
  by_cases h960 : (960 * 720 : Int64) < w * h
  · rw [if_pos h960]
    split_ifs with h1920
    · exact hF.pixels_capSizeTo_mono hcap hcap' (by decide) (by decide) hpos h960 h1920
    · exact (hF.pixels_capSizeTo_le hcap (by decide) (by decide) hpos h960).trans
        (lt_pixels_of_cut hcap hpos.le h960).le
  · have h1920 : ¬ (1920 * 1080 : Int64) < w * h := fun h ↦ h960 (Int64.lt_trans (by decide) h)
    rw [if_neg h960, if_neg h1920]
    split_ifs
    · exact pixels_capSizeTo_640_le_self hF hw hh
    · exact le_rfl

/-- **A board of 4 GB leaves at least as many pixels as one of 2 GB** to a stream that a program
looks at. To another one it leaves fewer, if the stream has more than 960x720. -/
theorem pixels_limitSize_two_le_four_iff :
    pixels (use.limitSize F .tier2GB (w :: h :: rest)) ≤
        pixels (use.limitSize F .tier4GB (w :: h :: rest)) ↔
      use.hasCV = true ∨ w * h ≤ 960 * 720 := by
  have hpos : 0 < w.toInt * h.toInt := by positivity
  have hcap : IsCap 640 480 := ⟨by decide, by decide⟩
  have hcap' : IsCap 960 720 := ⟨by decide, by decide⟩
  cases hcv : use.hasCV with
  | false =>
    -- Without a program that looks at the stream the small board sets no limit.
    have hsecond : use.cutsSecond (w :: h :: rest) = false := by simp [cutsSecond, hcv]
    dsimp only [limitSize]
    simp only [hcv, hsecond, exceeds_cons, Bool.false_eq_true, false_and, if_false, false_or]
    split_ifs with h960
    · refine iff_of_false (not_le.mpr ?_) (Int64.not_le.mpr h960)
      exact (hF.pixels_capSizeTo_le hcap' (by decide) (by decide) hpos h960).trans_lt
        (lt_pixels_of_cut hcap' hpos.le h960)
    · exact iff_of_true le_rfl (Int64.not_lt.mp h960)
  | true =>
    refine iff_of_true ?_ (Or.inl rfl)
    rw [pixels_limitSize_two_of_cv hcv]
    dsimp only [limitSize]
    split_ifs with h960
    · rw [exceeds_cons] at h960
      exact hF.pixels_capSizeTo_mono hcap hcap' (by decide) (by decide) hpos
        (Int64.lt_trans (by decide) h960) h960
    · exact le_rfl
    · exact pixels_capSizeTo_640_le_self hF hw hh

theorem lowMemorySize_capSizeTo :
    lowMemorySize F true (capSizeTo F 640 480 (w :: h :: rest)) =
      capSizeTo F 640 480 (w :: h :: rest) := by
  have hcap : IsCap 640 480 := ⟨by decide, by decide⟩
  have hpos : 0 < w.toInt * h.toInt := by positivity
  refine if_neg fun hexceeds ↦ ?_
  by_cases hcut : (640 * 480 : Int64) < w * h
  · obtain ⟨w', h', heq, hw', hh'⟩ : ∃ w' h' : Int64,
        capSizeTo F 640 480 (w :: h :: rest) = [w', h'] ∧ 1 ≤ w'.toInt ∧ 1 ≤ h'.toInt :=
      exists_capSizeTo_cut hcap hcut
    have hle : pixels [w', h'] ≤ _ :=
      heq ▸ hF.pixels_capSizeTo_le hcap (by decide) (by decide) hpos hcut
    rw [heq, not_exceeds_of_pixels_le hw' hh' hle] at hexceeds
    exact Bool.false_ne_true hexceeds.2
  · rw [capSizeTo_of_le (Int64.not_lt.mp hcut), exceeds_cons] at hexceeds
    exact hcut hexceeds.2

theorem pixels_low_two :
    pixels (lowMemorySize F true (use.limitSize F .tier2GB (w :: h :: rest))) =
      pixels (capSizeTo F 640 480 (w :: h :: rest)) := by
  dsimp only [limitSize]
  simp only [exceeds_cons]
  split_ifs with h640 h960
  · rw [lowMemorySize_capSizeTo hF hw hh]
  · exact absurd ⟨h960.1, Or.inr (Int64.lt_trans (by decide) h960.2)⟩ h640
  · exact pixels_lowMemorySize_self

theorem pixels_low_four :
    pixels (lowMemorySize F true (use.limitSize F .tier4GB (w :: h :: rest))) =
      cutTwice F 960 720 (w :: h :: rest) := by
  have hcap : pixels (lowMemorySize F true (if exceeds 960 720 (w :: h :: rest)
      then capSizeTo F 960 720 (w :: h :: rest) else w :: h :: rest)) =
      cutTwice F 960 720 (w :: h :: rest) := pixels_low_cap ⟨by decide, by decide⟩
  dsimp only [limitSize]
  split_ifs at hcap ⊢ with h960
  · exact hcap
  · rw [lowMemorySize_capSizeTo hF hw hh, ← hcap, pixels_lowMemorySize_self]
  · exact hcap

theorem lowMemoryGrows_iff :
    pixels (capSizeTo F 640 480 (w :: h :: rest)) ≤ cutTwice F 960 720 (w :: h :: rest) ∧
        cutTwice F 960 720 (w :: h :: rest) ≤ cutTwice F 1920 1080 (w :: h :: rest) ↔
      LowMemoryGrows F (w :: h :: rest) := by
  have hpos : 0 < w.toInt * h.toInt := by positivity
  have hcap₂ : IsCap 640 480 := ⟨by decide, by decide⟩
  have hcap₄ : IsCap 960 720 := ⟨by decide, by decide⟩
  have hcap₈ : IsCap 1920 1080 := ⟨by decide, by decide⟩
  rw [LowMemoryGrows]
  by_cases h960 : w * h ≤ 960 * 720
  · rw [cutTwice_of_le h960, cutTwice_of_le (Int64.le_trans h960 (by decide))]
    exact iff_of_true ⟨le_rfl, le_rfl⟩ (Or.inl h960)
  · have hcut₄ := Int64.not_le.mp h960
    have hcut₂ : (640 * 480 : Int64) < w * h := Int64.lt_trans (by decide) hcut₄
    rw [or_iff_right h960]
    -- A size keeps its side of the band when it is cut, so both cuts go the same way.
    split_ifs with hwide htall
    · have h₂ : pixels (capSizeTo F 640 480 (w :: h :: rest)) =
          640 * (cutRows F 640 (aspectRatio F w h)).toInt := by
        rw [capSizeTo_cut hcap₂ hcut₂, if_pos hwide]
        rfl
      have h₄ : cutTwice F 960 720 (w :: h :: rest) = _ := hF.pixels_cut_wide (N := 693) hcap₄
        (by decide) hcut₄ hwide (by decide) (by decide) (by decide)
      rw [← h₂, ← h₄]
      exact noFewer_iff cutTwice_of_le fun hcut₈ ↦ hF.pixels_cut_wide (N := 1387) hcap₈
        (by decide) hcut₈ hwide (by decide) (by decide) (by decide)
    · have h₂ : pixels (capSizeTo F 640 480 (w :: h :: rest)) =
          (cutColumns F 480 (aspectRatio F w h)).toInt * 480 := by
        rw [capSizeTo_cut hcap₂ hcut₂, if_neg hwide, if_pos htall]
        rfl
      have h₄ : cutTwice F 960 720 (w :: h :: rest) = _ := hF.pixels_cut_tall (N := 923) (e := 9)
        hcap₄ (by decide) hpos hcut₄ htall (by decide)
        (by change ((720 : ℤ) * _ : ℚ) < _; norm_num)
        (by change ((720 : ℤ) * _ + _ : ℚ) < _; norm_num) (by decide)
      rw [← h₂, ← h₄]
      exact noFewer_iff cutTwice_of_le fun hcut₈ ↦ hF.pixels_cut_tall (N := 1385) (e := 10) hcap₈
        (by decide) hpos hcut₈ htall (by decide) (by change ((1080 : ℤ) * _ : ℚ) < _; norm_num)
        (by change ((1080 : ℤ) * _ + _ : ℚ) < _; norm_num) (by decide)
    · exact cutTwice_band hF hwide htall hcut₄

end

/-- The size that the boards start from has two positive sides, and is as the configured one where
the boards differ. -/
theorem exists_base_size (F : CameraFloat) (hsize : ∀ n ∈ s.size, 0 < n) :
    ∃ w h rest, (baseProfile c s).size = w :: h :: rest ∧ 1 ≤ w.toInt ∧ 1 ≤ h.toInt ∧
      (exceeds 960 720 s.size = false ↔ w * h ≤ 960 * 720) ∧
      (LowMemoryGrows F s.size ↔ LowMemoryGrows F (w :: h :: rest)) := by
  have hdefault : LowMemoryGrows F [640, 480] := Or.inl (by decide)
  dsimp only [baseProfile]
  match hs : s.size with
  | [] =>
    exact ⟨640, 480, [], rfl, by decide, by decide, by decide, iff_of_true trivial hdefault⟩
  | [_] =>
    exact ⟨640, 480, [], rfl, by decide, by decide, iff_of_true rfl (by decide),
      iff_of_true trivial hdefault⟩
  | w :: h :: rest =>
    rw [hs] at hsize
    have hw : 0 < w := hsize w List.mem_cons_self
    have hh : 0 < h := hsize h (List.mem_cons_of_mem w List.mem_cons_self)
    exact ⟨w, h, rest, rfl, Int64.lt_iff_toInt_lt.mp hw, Int64.lt_iff_toInt_lt.mp hh,
      not_exceeds_cons, Iff.rfl⟩

/-- Of the four values only the size may be larger on a smaller board. -/
theorem atMost_next_iff {E' : StreamerEnv} (hauto : c.camera.autoMemoryProfile = true)
    (htier : detectMemoryTier E'.memTotalKB = (detectMemoryTier E.memTotalKB).next) :
    (buildStreamMemoryProfile E c s).AtMost (buildStreamMemoryProfile E' c s) ↔
      pixels (buildStreamMemoryProfile E c s).size ≤
        pixels (buildStreamMemoryProfile E' c s).size := by
  refine ⟨StreamMemoryProfile.AtMost.size, fun hsize ↦ ⟨hsize, ?_, ?_, ?_⟩⟩
  · rw [profile_loresSize, profile_loresSize, loresInEffect, loresInEffect,
      tierInEffect_of_auto hauto, tierInEffect_of_auto hauto, htier]
    exact pixels_loresForTier_le_next _ _ _
  · rw [profile_bitrate, profile_bitrate, bitrateInEffect, bitrateInEffect,
      tierInEffect_of_auto hauto, tierInEffect_of_auto hauto, htier]
    exact limitBitrate_le_next _ _ _
  · rw [profile_bufferCount hauto, profile_bufferCount hauto, htier]
    have hnext : (streamUse c s).limitBuffers _ _ ≤ _ :=
      limitBuffers_le_next (detectMemoryTier E.memTotalKB) (baseProfile c s).bufferCount
    dsimp only
    split_ifs
    · rw [Int64.le_iff_toInt_le, toInt_minInt, toInt_minInt]
      exact min_le_min_right _ (Int64.le_iff_toInt_le.mp hnext)
    · exact hnext

example : LowMemoryGrows .binary64 [1280, 720] ∧ LowMemoryGrows .binary64 [8000, 500] ∧
    ¬ LowMemoryGrows .binary64 [2048, 1536] := by decide +kernel

end DroneBridge
