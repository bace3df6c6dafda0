import DroneBridge.Lib.Binary64
import DroneBridge.Lib.Blocks

/-!
# From the sensor to the wire

The sensor gives a frame whose bytes lie in one of two orders. The encoder process is told a size
and an order, and reads raw bytes. Without processing, the frame of the sensor is cropped, resized
and put in the order of the wire. With processing it is first put in the order of OpenCV, and
cropped, resized and reordered after that. A third route, for the hardware encoder, reorders the
buffer where it is.

The routes give the same bytes, as many as the encoder process expects, and the colours that it
reads there are those of the sensor's frame after the crop. The crop computes with floats, whose
operations are a parameter: whatever they give, the slice lies in the frame and is not empty. -/

namespace DroneBridge

open Binary64 (roundEven)

/-! ## Frames -/

/-- `BGR888` and `RGB888`: the order of the bytes of a pixel in memory. -/
inductive ChannelOrder
  | bgr
  | rgb
  deriving DecidableEq, Repr

/-- A NumPy array of bytes with two or three dimensions. -/
structure Image where
  height : ℕ
  width : ℕ
  /-- The third dimension, if there is one. -/
  channels : Option ℕ
  /-- The byte at a row, a column and a channel; outside the dimensions it says nothing. -/
  byte : ℕ → ℕ → ℕ → UInt8

inductive Interpolation
  | area
  | cubic
  | linear
  deriving DecidableEq, Repr

/-- What the code takes from Python's floats, and `cv2.resize`, which treats each channel by
itself. -/
structure ImageOps where
  div : ℚ → ℚ → ℚ
  mul : ℚ → ℚ → ℚ
  sub : ℚ → ℚ → ℚ
  const : ℚ → ℚ
  /-- A channel after `cv2.resize`, by the sizes before and after. -/
  resample : Interpolation → ℕ × ℕ → ℕ × ℕ → (ℕ → ℕ → UInt8) → ℕ → ℕ → UInt8

/-- The entries of the stream's configuration that the conversion reads. -/
structure WireConf where
  format : Option String := none
  /-- Width and height. -/
  size : Option (ℤ × ℤ) := none

def WireConf.targetSize (c : WireConf) : ℤ × ℤ := c.size.getD (640, 480)

/-- `str(fmt or "RGB888").upper()`. -/
def upperFormat (fmt : Option String) : List Char :=
  ((fmt.filter (· ≠ "")).getD "RGB888").toList.map Char.toUpper

def normalizeUiFormat (fmt : Option String) : ChannelOrder :=
  if ["BGR888".toList, "BGR".toList].contains (upperFormat fmt) then .bgr else .rgb

/-- The names of libcamera give the bytes the other way round than those of V4L2. -/
def resolveByteOrder (reportedFormat : Option String) (libcameraNames : Bool) : ChannelOrder :=
  let f := upperFormat reportedFormat
  if libcameraNames then
    if ["RGB888".toList, "RGB".toList, "XRGB8888".toList, "RGBA8888".toList].contains f then .bgr
    else if ["BGR888".toList, "BGR".toList, "XBGR8888".toList, "BGRA8888".toList].contains f then
      .rgb
    else .bgr
  else if ["BGR888".toList, "BGR".toList].contains f then .bgr
  else if ["RGB888".toList, "RGB".toList].contains f then .rgb
  else .bgr

def wirePixelFormat (c : WireConf) : ChannelOrder := normalizeUiFormat c.format

namespace Image

/-- `cv2.cvtColor` accepts the array: it is not empty and has colours. -/
def IsColour (f : Image) : Prop :=
  0 < f.height ∧ 0 < f.width ∧ (f.channels = some 3 ∨ f.channels = some 4)

instance (f : Image) : Decidable f.IsColour :=
  inferInstanceAs (Decidable (_ ∧ _ ∧ (_ ∨ _)))

/-- The channel that takes the place of another when the order is turned round. -/
def mirror : ℕ → ℕ
  | 0 => 2
  | 1 => 1
  | 2 => 0
  | c => c

/-- The colours in the other order; a fourth channel is dropped. -/
def exchange (f : Image) : Image :=
  { f with channels := some 3, byte := fun y x c ↦ f.byte y x (mirror c) }

def reorderChannels (src dst : ChannelOrder) (f : Image) : Option Image :=
  if src = dst then some f
  else if f.IsColour then some f.exchange
  else none

/-- `frame[y0:y1, x0:x1]`, which NumPy cuts at the dimensions. -/
def slice (f : Image) (y0 y1 x0 x1 : ℕ) : Image :=
  { f with
    height := min y1 f.height - y0
    width := min x1 f.width - x0
    byte := fun y x ↦ f.byte (y0 + y) (x0 + x) }

/-- The ends of the middle `new` of `n` places. -/
def centreCut (n : ℕ) (new : ℤ) : ℕ × ℕ :=
  let start := max 0 ((n - new) / 2)
  (start.toNat, (start + new).toNat)

section Ops

variable (ops : ImageOps)

def centerCropToAspect (f : Image) (targetAr : ℚ) : Image :=
  let srcAr := if f.height = 0 then targetAr else ops.div f.width f.height
  let diff := ops.sub srcAr targetAr
  if -ops.const (2 / 100) < diff ∧ diff < ops.const (2 / 100) then f
  else if targetAr < srcAr then
    let cut := centreCut f.width (max 1 (roundEven (ops.mul f.height targetAr)))
    f.slice 0 f.height cut.1 cut.2
  else
    let cut := centreCut f.height (max 1 (roundEven (ops.div f.width targetAr)))
    f.slice cut.1 cut.2 0 f.width

def resizeInterp (srcW srcH dstW dstH : ℕ) : Interpolation :=
  if dstW < srcW ∨ dstH < srcH then .area
  else if 3 * srcW < 2 * dstW ∨ 3 * srcH < 2 * dstH then .cubic
  else .linear

/-- `cv2.resize` raises an error for an empty frame and for a size that is not positive. -/
def resize (f : Image) (w h : ℤ) : Option Image :=
  if 0 < f.height ∧ 0 < f.width ∧ 0 < w ∧ 0 < h then
    some { f with
      height := h.toNat
      width := w.toNat
      byte := fun y x c ↦
        ops.resample (resizeInterp f.width f.height w.toNat h.toNat) (f.width, f.height)
          (w.toNat, h.toNat) (fun y' x' ↦ f.byte y' x' c) y x }
  else none

/-- `out[:, :, :3]` where there are more channels. -/
def cutChannels (f : Image) : Image :=
  match f.channels with
  | some c => if 3 < c then { f with channels := some 3 } else f
  | none => f

/-- The crop to the ratio of a size and the resize to it. -/
def fit (f : Image) (w h : ℤ) : Option Image :=
  if (f.width : ℤ) = w ∧ (f.height : ℤ) = h then some f
  else
    let out := centerCropToAspect ops f (if h = 0 then ops.const (4 / 3) else ops.div w h)
    if (out.width : ℤ) = w ∧ (out.height : ℤ) = h then some out else resize ops out w h

def prepareFrame (c : WireConf) (f : Image) : Option Image :=
  fit ops f.cutChannels c.targetSize.1 c.targetSize.2

def sensorFrameToBgr (order : ChannelOrder) (f : Image) : Option Image :=
  if order = .bgr then some f else reorderChannels order .bgr f

def sensorToWire (c : WireConf) (order : ChannelOrder) (f : Image) : Option Image :=
  (prepareFrame ops c f).bind (reorderChannels order (normalizeUiFormat c.format))

def bgrToWire (c : WireConf) (f : Image) : Option Image :=
  (prepareFrame ops c f).bind (reorderChannels .bgr (normalizeUiFormat c.format))

/-- With four channels OpenCV writes the three of its result to memory of its own. -/
def applySensorToUiWire (c : WireConf) (order : ChannelOrder) (f : Image) : Image :=
  if order = normalizeUiFormat c.format then f
  else if f.channels = some 3 then f.exchange
  else f

end Ops

/-- The bytes of the frame, row by row. -/
def tightBytes (f : Image) : List UInt8 :=
  (List.range f.height).flatMap fun y ↦
    (List.range f.width).flatMap fun x ↦ (List.range 3).map fun c ↦ f.byte y x c

/-- `np_as_tight_bytes` raises `ValueError` unless the frame has three channels. -/
def npAsTightBytes (f : Image) : Option (List UInt8) :=
  if f.channels = some 3 then some f.tightBytes else none

end Image

/-- The source of a stream: what the camera reports of its frames. -/
structure CaptureSource where
  sensorFormat : Option String
  /-- The camera is read through OpenCV. -/
  isUsb : Bool

namespace CaptureSource

variable (ops : ImageOps) (src : CaptureSource)

def sensorByteOrder : ChannelOrder := resolveByteOrder src.sensorFormat (!src.isUsb)

def captureBgr (f : Image) : Option Image := f.sensorFrameToBgr src.sensorByteOrder

def captureWire (c : WireConf) (f : Image) : Option Image :=
  f.sensorToWire ops c src.sensorByteOrder

end CaptureSource

/-! ## Colours -/

structure Colour where
  red : UInt8
  green : UInt8
  blue : UInt8
  deriving DecidableEq, Repr

def ChannelOrder.colour : ChannelOrder → UInt8 → UInt8 → UInt8 → Colour
  | .bgr, a, b, c => ⟨c, b, a⟩
  | .rgb, a, b, c => ⟨a, b, c⟩

/-- The colour at a place of the frame, if its bytes lie in this order. -/
def Image.colour (f : Image) (order : ChannelOrder) (y x : ℕ) : Colour :=
  order.colour (f.byte y x 0) (f.byte y x 1) (f.byte y x 2)

/-- The colour that a reader of raw video with frames of width `w` finds. -/
def rawColour (order : ChannelOrder) (w : ℕ) (bytes : List UInt8) (y x : ℕ) : Option Colour := do
  let a ← bytes[3 * (w * y + x)]?
  let b ← bytes[3 * (w * y + x) + 1]?
  let c ← bytes[3 * (w * y + x) + 2]?
  pure (order.colour a b c)

namespace Image

/-! ## The slice and the resize -/

/-- The slice in the middle is inside and not empty, whatever length is asked for. -/
theorem centreCut_spec {n : ℕ} {new : ℤ} (hn : 0 < n) (hnew : 1 ≤ new) :
    (centreCut n new).1 < min (centreCut n new).2 n := by
  simp only [centreCut]
  omega

variable {ops : ImageOps} {f g : Image} {c : WireConf} {order : ChannelOrder}

theorem centerCropToAspect_pos (ops : ImageOps) (ar : ℚ) (hh : 0 < f.height) (hw : 0 < f.width) :
    0 < (centerCropToAspect ops f ar).height ∧ 0 < (centerCropToAspect ops f ar).width := by
  simp only [centerCropToAspect, if_neg hh.ne']
  split_ifs
  · exact ⟨hh, hw⟩
  · refine ⟨?_, Nat.sub_pos_of_lt (centreCut_spec hw (le_max_left _ _))⟩
    simpa [slice] using hh
  · refine ⟨Nat.sub_pos_of_lt (centreCut_spec hh (le_max_left _ _)), ?_⟩
    simpa [slice] using hw

theorem channels_centerCropToAspect (ops : ImageOps) (f : Image) (ar : ℚ) :
    (centerCropToAspect ops f ar).channels = f.channels := by
  simp only [centerCropToAspect]
  split_ifs <;> rfl

/-- A frame that is not empty is brought to any size that is positive. -/
theorem fit_spec (ops : ImageOps) {w h : ℤ} (hh : 0 < f.height) (hw : 0 < f.width) (hw' : 0 < w)
    (hh' : 0 < h) :
    ∃ g, fit ops f w h = some g ∧ (g.width : ℤ) = w ∧ (g.height : ℤ) = h ∧
      g.channels = f.channels := by
  rw [fit]
  by_cases hsame : (f.width : ℤ) = w ∧ (f.height : ℤ) = h
  · exact ⟨f, if_pos hsame, hsame.1, hsame.2, rfl⟩
  rw [if_neg hsame]
  generalize (if h = 0 then ops.const (4 / 3) else ops.div w h) = ar
  obtain ⟨hh₁, hw₁⟩ := centerCropToAspect_pos ops ar hh hw
  have hch := channels_centerCropToAspect ops f ar
  generalize centerCropToAspect ops f ar = out at *
  by_cases hout : (out.width : ℤ) = w ∧ (out.height : ℤ) = h
  · exact ⟨out, if_pos hout, hout.1, hout.2, hch⟩
  rw [if_neg hout, resize, if_pos ⟨hh₁, hw₁, hw', hh'⟩]
  exact ⟨_, rfl, Int.toNat_of_nonneg hw'.le, Int.toNat_of_nonneg hh'.le, hch⟩

theorem channels_cutChannels (hf : f.IsColour) : f.cutChannels.channels = some 3 := by
  obtain ⟨-, -, h | h⟩ := hf <;> simp [cutChannels, h]

theorem prepareFrame_spec (ops : ImageOps) (hf : f.IsColour) (hw : 0 < c.targetSize.1)
    (hh : 0 < c.targetSize.2) :
    ∃ g, prepareFrame ops c f = some g ∧ (g.width : ℤ) = c.targetSize.1 ∧
      (g.height : ℤ) = c.targetSize.2 ∧ g.channels = some 3 := by
  have hsize : f.cutChannels.height = f.height ∧ f.cutChannels.width = f.width := by
    rw [cutChannels]
    split
    · split_ifs <;> exact ⟨rfl, rfl⟩
    · exact ⟨rfl, rfl⟩
  have hh' : 0 < f.cutChannels.height := hsize.1 ▸ hf.1
  have hw' : 0 < f.cutChannels.width := hsize.2 ▸ hf.2.1
  obtain ⟨g, hg, hgw, hgh, hgc⟩ := fit_spec ops hh' hw' hw hh
  exact ⟨g, hg, hgw, hgh, hgc.trans (channels_cutChannels hf)⟩

/-! ## Turning the order round -/

@[simp] theorem mirror_mirror (k : ℕ) : mirror (mirror k) = k := by
  match k with
  | 0 | 1 | 2 => rfl
  | k + 3 => rfl

theorem exchange_exchange (h : f.channels = some 3) : f.exchange.exchange = f := by
  cases f
  simp_all [exchange]

theorem isColour_exchange (hf : f.IsColour) : f.exchange.IsColour := ⟨hf.1, hf.2.1, .inl rfl⟩

theorem cutChannels_exchange (f : Image) : f.exchange.cutChannels = f.exchange := rfl

theorem exchange_cutChannels (hf : f.IsColour) : f.cutChannels.exchange = f.exchange := by
  obtain ⟨-, -, h | h⟩ := hf <;> simp [cutChannels, exchange, h]

theorem centerCropToAspect_exchange (ar : ℚ) :
    centerCropToAspect ops f.exchange ar = (centerCropToAspect ops f ar).exchange := by
  have hslice (y0 y1 x0 x1 : ℕ) :
      f.exchange.slice y0 y1 x0 x1 = (f.slice y0 y1 x0 x1).exchange := rfl
  have hh : f.exchange.height = f.height := rfl
  have hw : f.exchange.width = f.width := rfl
  simp only [centerCropToAspect, hslice, hh, hw, apply_ite exchange]

theorem fit_exchange (w h : ℤ) : fit ops f.exchange w h = (fit ops f w h).map exchange := by
  have hresize (g : Image) : resize ops g.exchange w h = (resize ops g w h).map exchange := by
    simp only [resize, apply_ite (Option.map exchange), Option.map_some, Option.map_none]
    rfl
  simp only [fit, centerCropToAspect_exchange, hresize, apply_ite (Option.map exchange),
    Option.map_some]
  rfl

theorem prepareFrame_exchange (hf : f.IsColour) :
    prepareFrame ops c f.exchange = (prepareFrame ops c f).map exchange := by
  rw [prepareFrame, cutChannels_exchange, ← exchange_cutChannels hf, fit_exchange, prepareFrame]

theorem reorderChannels_eq_some {src dst : ChannelOrder} (hf : f.IsColour) :
    reorderChannels src dst f = some (if src = dst then f else f.exchange) := by
  rw [reorderChannels, if_pos hf]
  split_ifs <;> rfl

/-- What goes to the wire has the size that the encoder process was told, and three channels. -/
theorem sensorToWire_spec (ops : ImageOps) (order : ChannelOrder) (hf : f.IsColour)
    (hw : 0 < c.targetSize.1) (hh : 0 < c.targetSize.2) :
    ∃ g out, prepareFrame ops c f = some g ∧ f.sensorToWire ops c order = some out ∧
      out = (if order = wirePixelFormat c then g else g.exchange) ∧ out.channels = some 3 ∧
      (out.width : ℤ) = c.targetSize.1 ∧ (out.height : ℤ) = c.targetSize.2 := by
  obtain ⟨g, hg, hgw, hgh, hg3⟩ := prepareFrame_spec ops hf hw hh
  have hgc : g.IsColour := ⟨by omega, by omega, .inl hg3⟩
  refine ⟨g, _, hg, ?_, rfl, ?_⟩
  · rw [sensorToWire, hg, Option.bind_some, reorderChannels_eq_some hgc]
    rfl
  · split_ifs
    · exact ⟨hg3, hgw, hgh⟩
    · exact ⟨rfl, hgw, hgh⟩

/-- Turning the sensor's order to that of OpenCV first makes no difference on the wire. -/
theorem bind_bgrToWire (hf : f.IsColour) (hw : 0 < c.targetSize.1) (hh : 0 < c.targetSize.2) :
    (f.sensorFrameToBgr order).bind (bgrToWire ops c) = f.sensorToWire ops c order := by
  obtain ⟨g, hg, hgw, hgh, hg3⟩ := prepareFrame_spec ops hf hw hh
  have hgc : g.IsColour := ⟨by omega, by omega, .inl hg3⟩
  cases order with
  | bgr => rfl
  | rgb =>
    have hbgr : f.sensorFrameToBgr .rgb = some f.exchange := reorderChannels_eq_some hf
    rw [hbgr, Option.bind_some, bgrToWire, prepareFrame_exchange hf, sensorToWire, hg,
      Option.map_some, Option.bind_some, Option.bind_some,
      reorderChannels_eq_some (isColour_exchange hgc), reorderChannels_eq_some hgc]
    cases normalizeUiFormat c.format with
    | bgr => rfl
    | rgb => exact congrArg some (exchange_exchange hg3)

/-! ## What is read from the wire -/

theorem length_tightBytes (f : Image) : f.tightBytes.length = 3 * (f.width * f.height) := by
  simp only [tightBytes, List.length_flatMap, List.length_map, List.length_range, List.map_const',
    List.sum_replicate_nat]
  ring

theorem getElem?_tightBytes {y x k : ℕ} (hy : y < f.height) (hx : x < f.width) (hk : k < 3) :
    f.tightBytes[3 * (f.width * y + x) + k]? = some (f.byte y x k) := by
  have hrow (y : ℕ) : ((List.range f.width).flatMap fun x ↦
      (List.range 3).map fun c ↦ f.byte y x c).length = 3 * f.width := by
    simp [List.length_flatMap, Nat.mul_comm]
  have hplace : 3 * (f.width * y + x) + k = 3 * f.width * y + (3 * x + k) := by ring
  have hpixel (x : ℕ) : ((List.range 3).map fun c ↦ f.byte y x c).length = 3 := rfl
  rw [hplace, tightBytes, getElem?_flatMap_range hrow hy (by omega),
    getElem?_flatMap_range hpixel hx hk, List.getElem?_map, List.getElem?_range hk, Option.map_some]

theorem rawColour_tightBytes {y x : ℕ} (hy : y < f.height) (hx : x < f.width) :
    rawColour order f.width f.tightBytes y x = some (f.colour order y x) := by
  have h0 := getElem?_tightBytes hy hx (show 0 < 3 by decide)
  have h1 := getElem?_tightBytes hy hx (show 1 < 3 by decide)
  have h2 := getElem?_tightBytes hy hx (show 2 < 3 by decide)
  rw [Nat.add_zero] at h0
  rw [rawColour, h0, h1, h2]
  rfl

/-- The colours are the same when the bytes and their order are both turned round. -/
theorem colour_exchange {order' : ChannelOrder} (h : order ≠ order') (y x : ℕ) :
    f.exchange.colour order' y x = f.colour order y x := by
  cases order <;> cases order' <;> first | rfl | exact absurd rfl h

end Image

open Image in
/-- Both routes of the capture loop end in the same bytes. They are as many as the encoder process
reads for a frame, and the colours that it finds are those of the frame of the sensor, cropped and
resized. -/
theorem wire_colours (ops : ImageOps) (src : CaptureSource) (c : WireConf) (f : Image)
    (hf : f.IsColour) (hw : 0 < c.targetSize.1) (hh : 0 < c.targetSize.2) :
    ∃ fitted bytes, prepareFrame ops c f = some fitted ∧
      (src.captureWire ops c f).bind npAsTightBytes = some bytes ∧
      ((src.captureBgr f).bind (bgrToWire ops c)).bind npAsTightBytes = some bytes ∧
      (bytes.length : ℤ) = 3 * (c.targetSize.1 * c.targetSize.2) ∧
      (∀ y x : ℕ, y < c.targetSize.2 → x < c.targetSize.1 →
        rawColour (wirePixelFormat c) c.targetSize.1.toNat bytes y x =
          some (fitted.colour src.sensorByteOrder y x)) ∧
      ((f.width : ℤ) = c.targetSize.1 → (f.height : ℤ) = c.targetSize.2 → f.channels = some 3 →
        npAsTightBytes (applySensorToUiWire c src.sensorByteOrder f) = some bytes) := by
  -- what is on the wire: the fitted frame, turned round when the orders differ
  obtain ⟨g, out, hg, hwire, hout, hout3, houtw, houth⟩ :=
    sensorToWire_spec ops src.sensorByteOrder hf hw hh
  have hcolour (y x : ℕ) : out.colour (wirePixelFormat c) y x =
      g.colour src.sensorByteOrder y x := by
    rw [hout]
    split_ifs with horder
    · rw [horder]
    · exact colour_exchange horder y x
  have hbytes : npAsTightBytes out = some out.tightBytes := if_pos hout3
  refine ⟨g, out.tightBytes, hg, ?_, ?_, ?_, ?_, ?_⟩
  · rw [CaptureSource.captureWire, hwire, Option.bind_some, hbytes]
  · rw [CaptureSource.captureBgr, bind_bgrToWire hf hw hh, hwire, Option.bind_some, hbytes]
  · rw [length_tightBytes, ← houtw, ← houth]
    push_cast
    rfl
  · intro y x hy hx
    have hwidth : c.targetSize.1.toNat = out.width := by rw [← houtw]; rfl
    rw [hwidth, rawColour_tightBytes (by omega) (by omega), hcolour]
  · intro hfw hfh hf3
    have hcut : f.cutChannels = f := by simp [cutChannels, hf3]
    have hgf : g = f := by
      rw [prepareFrame, hcut, fit, if_pos ⟨hfw, hfh⟩] at hg
      exact (Option.some.inj hg).symm
    rw [← hbytes, hout, hgf, applySensorToUiWire, if_pos hf3]
    rfl

/-- Exact arithmetic, and the nearest place for the resize. -/
def ImageOps.exact : ImageOps where
  div := (· / ·)
  mul := (· * ·)
  sub := (· - ·)
  const := id
  resample _ src dst channel y x := channel (y * src.2 / dst.2) (x * src.1 / dst.1)

/-- A frame of two rows and four columns from a USB camera, for a wire of two by two in the order
of `RGB888`. -/
theorem wire_colours_usb : ∃ bytes,
    (CaptureSource.captureWire .exact ⟨some "BGR888", true⟩ ⟨some "RGB888", some (2, 2)⟩
      ⟨2, 4, some 3, fun y x k ↦ (16 * y + 4 * x + k).toUInt8⟩).bind Image.npAsTightBytes =
        some bytes ∧
      (bytes.length : ℤ) = 3 * (2 * 2) := by
  obtain ⟨-, bytes, -, hbytes, -, hlen, -⟩ := wire_colours .exact ⟨some "BGR888", true⟩
    ⟨some "RGB888", some (2, 2)⟩ ⟨2, 4, some 3, fun y x k ↦ (16 * y + 4 * x + k).toUInt8⟩
    (by decide) (by decide) (by decide)
  exact ⟨bytes, hbytes, hlen⟩

end DroneBridge
