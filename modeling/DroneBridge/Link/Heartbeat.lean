import DroneBridge.Lib.Wire
import DroneBridge.Link.Dedup
import Mathlib.Data.List.DropRight

/-!
# Heartbeats in raw datagrams

The Ethernet broadcast watcher reads datagrams without a MAVLink parser: it tries every offset for a
heartbeat frame of the PX4 autopilot. A false start byte may claim any length, so an offset that
fails says nothing about the next one.

The scan reads with checked indices. It is compared with the frames themselves: `Mavlink2Frame` is a
frame by its fields, and the scan says yes exactly when the encoding of a frame with the right
fields lies somewhere in the datagram.
-/

namespace DroneBridge

/-! ## The checksum -/

def crcAccumulate (b : UInt8) (crc : UInt16) : UInt16 :=
  let tmp := (crc &&& 0xFF).toUInt8 ^^^ b
  let tmp := tmp ^^^ tmp <<< 4
  crc >>> 8 ^^^ tmp.toUInt16 <<< 8 ^^^ tmp.toUInt16 <<< 3 ^^^ tmp.toUInt16 >>> 4

def mavlinkCRC (data : List UInt8) (extra : UInt8) : UInt16 :=
  crcAccumulate extra (data.foldl (fun crc b ↦ crcAccumulate b crc) 0xFFFF)

/-! ## The scan -/

/-- One turn of the loop: whether a heartbeat starts at an offset. -/
def heartbeatAt (buf : List UInt8) (i : ℕ) : Outcome Bool := do
  if (← byteAt buf i) ≠ 0xFD then return false
  let plen := (← byteAt buf (i + 1)).toNat
  if plen < 9 ∨ buf.length < i + 10 + plen + 2 then return false
  let msgid := (← byteAt buf (i + 7)).toUInt32 ||| (← byteAt buf (i + 8)).toUInt32 <<< 8 |||
    (← byteAt buf (i + 9)).toUInt32 <<< 16
  if msgid ≠ 0 then return false
  let sysid ← byteAt buf (i + 5)
  let compid ← byteAt buf (i + 6)
  if sysid = 0 ∨ sysid = 255 ∨ compid ≠ 1 then return false
  let payload ← sliceAt buf (i + 10) (i + 10 + plen)
  if (← byteAt payload 5) ≠ 12 then return false
  let body ← sliceAt buf (i + 1) (i + 10 + plen)
  let crc := mavlinkCRC body 50
  let got := (← byteAt buf (i + 10 + plen)).toUInt16 |||
    (← byteAt buf (i + 10 + plen + 1)).toUInt16 <<< 8
  return crc == got

/-- The offsets of the loop are those with at least twelve bytes left. -/
def frameHasPX4Heartbeat (buf : List UInt8) : Outcome Bool :=
  anyIndex (heartbeatAt buf) (List.range (buf.length - 11))

/-! ## Frames -/

/-- A MAVLink 2 frame up to its checksum. -/
structure Mavlink2Frame where
  incompatFlags : UInt8
  compatFlags : UInt8
  seq : UInt8
  sysID : UInt8
  compID : UInt8
  msgID : ℕ
  payload : List UInt8
  checksum : UInt16
  msgID_lt : msgID < 256 ^ 3
  payload_le : payload.length ≤ 255
  deriving DecidableEq, Repr

namespace Mavlink2Frame

variable (f : Mavlink2Frame)

/-- The bytes under the checksum. -/
def body : List UInt8 :=
  UInt8.ofNat f.payload.length :: f.incompatFlags :: f.compatFlags :: f.seq :: f.sysID ::
    f.compID :: (leBytes 3 f.msgID ++ f.payload)

def encode : List UInt8 := 0xFD :: (f.body ++ leBytes 2 f.checksum.toNat)

/-- A heartbeat of the PX4 autopilot with a correct checksum. -/
def IsPX4Heartbeat : Prop :=
  f.msgID = 0 ∧ 9 ≤ f.payload.length ∧ f.sysID ≠ 0 ∧ f.sysID ≠ 255 ∧ f.compID = 1 ∧
    f.payload[5]? = some 12 ∧ f.checksum = mavlinkCRC f.body 50

instance : Decidable f.IsPX4Heartbeat := inferInstanceAs (Decidable (_ ∧ _))

end Mavlink2Frame

/-! ### One offset -/

theorem heartbeatAt_append (pre buf : List UInt8) :
    heartbeatAt (pre ++ buf) pre.length = heartbeatAt buf 0 := by
  have hzero : byteAt (pre ++ buf) pre.length = byteAt buf 0 := byteAt_append pre buf 0
  simp only [heartbeatAt, hzero, Nat.add_assoc, byteAt_append, sliceAt_append, List.length_append,
    Nat.add_lt_add_iff_left, Nat.zero_add]

theorem or_shiftLeft {i b : ℕ} (hb : b < 2 ^ i) (c : ℕ) : b ||| c <<< i = b + 2 ^ i * c := by
  rw [Nat.or_comm, ← Nat.shiftLeft_add_eq_or_of_lt hb, Nat.shiftLeft_eq, Nat.add_comm,
    Nat.mul_comm]

theorem le16_eq (b c : UInt8) :
    b.toUInt16 ||| c.toUInt16 <<< 8 = UInt16.ofNat (leValue [b, c]) := by
  have hb := b.toNat_lt
  have hc := c.toNat_lt
  have hc8 : (c.toUInt16 <<< 8).toNat = c.toNat <<< 8 := by
    rw [UInt16.toNat_shiftLeft, UInt8.toNat_toUInt16]
    apply Nat.mod_eq_of_lt
    change c.toNat <<< 8 < _
    rw [Nat.shiftLeft_eq]
    omega
  rw [← UInt16.toNat_inj, UInt16.toNat_or, hc8, UInt8.toNat_toUInt16, or_shiftLeft hb,
    UInt16.toNat_ofNat']
  simp only [leValue]
  omega

theorem toNat_le24 (b c d : UInt8) :
    (b.toUInt32 ||| c.toUInt32 <<< 8 ||| d.toUInt32 <<< 16).toNat = leValue [b, c, d] := by
  have hb := b.toNat_lt
  have hc := c.toNat_lt
  have hshift (x : UInt8) (k : UInt32) (hk : k.toNat ≤ 24) :
      (x.toUInt32 <<< k).toNat = x.toNat <<< k.toNat := by
    rw [UInt32.toNat_shiftLeft, UInt8.toNat_toUInt32, Nat.mod_eq_of_lt (by omega : k.toNat < 32)]
    apply Nat.mod_eq_of_lt
    rw [Nat.shiftLeft_eq]
    calc x.toNat * 2 ^ k.toNat < 2 ^ 8 * 2 ^ k.toNat :=
          Nat.mul_lt_mul_of_pos_right x.toNat_lt (Nat.two_pow_pos _)
      _ ≤ 2 ^ 8 * 2 ^ 24 := Nat.mul_le_mul_left _ (Nat.pow_le_pow_right (by decide) hk)
  have hc8 : (c.toUInt32 <<< 8).toNat = c.toNat <<< 8 := hshift c 8 (by decide)
  have hd16 : (d.toUInt32 <<< 16).toNat = d.toNat <<< 16 := hshift d 16 (by decide)
  rw [UInt32.toNat_or, UInt32.toNat_or, hc8, hd16, UInt8.toNat_toUInt32, or_shiftLeft hb,
    or_shiftLeft (by omega)]
  simp only [leValue]
  omega

namespace Mavlink2Frame

variable (f : Mavlink2Frame) (post : List UInt8)

theorem length_body : f.body.length = 9 + f.payload.length := by
  simp only [body, List.length_cons, List.length_append, length_leBytes]
  omega

theorem length_encode : f.encode.length = 12 + f.payload.length := by
  rw [encode, List.length_cons, List.length_append, length_body, length_leBytes]
  omega

theorem toNat_length : (UInt8.ofNat f.payload.length).toNat = f.payload.length :=
  UInt8.toNat_ofNat_of_lt' (Nat.lt_succ_of_le f.payload_le)

theorem encode_append :
    f.encode ++ post = [0xFD] ++ (f.body ++ (leBytes 2 f.checksum.toNat ++ post)) := by
  rw [encode, List.cons_append, List.append_assoc]
  rfl

theorem sliceAt_payload :
    sliceAt (f.encode ++ post) 10 (10 + f.payload.length) = .ok f.payload := by
  rw [encode_append, body, List.cons_append]
  exact sliceAt_mid [0xFD, UInt8.ofNat f.payload.length, f.incompatFlags, f.compatFlags, f.seq,
    f.sysID, f.compID, _, _, _] f.payload (leBytes 2 f.checksum.toNat ++ post)

theorem sliceAt_body : sliceAt (f.encode ++ post) 1 (10 + f.payload.length) = .ok f.body := by
  have hend : 10 + f.payload.length = 1 + f.body.length := by
    rw [length_body]
    omega
  rw [encode_append, hend]
  exact sliceAt_mid [0xFD] f.body _

theorem byteAt_checksum :
    byteAt (f.encode ++ post) (10 + f.payload.length) = .ok (UInt8.ofNat f.checksum.toNat) ∧
      byteAt (f.encode ++ post) (10 + f.payload.length + 1) =
        .ok (UInt8.ofNat (f.checksum.toNat / 256)) := by
  have hend : 10 + f.payload.length = ([0xFD] ++ f.body).length := by
    rw [List.length_append, length_body, List.length_singleton]
    omega
  rw [encode_append, hend, ← List.append_assoc]
  exact ⟨byteAt_mid _ _ _, byteAt_append _ _ 1⟩

/-- The identifier the scan puts together from its three bytes is zero when the frame's is. -/
theorem readMsgID_eq_zero_iff : (UInt8.ofNat f.msgID).toUInt32 |||
    (UInt8.ofNat (f.msgID / 256)).toUInt32 <<< 8 |||
    (UInt8.ofNat (f.msgID / 256 / 256)).toUInt32 <<< 16 = 0 ↔ f.msgID = 0 := by
  have hval := leValue_leBytes (n := 3) f.msgID_lt
  rw [← UInt32.toNat_inj, toNat_le24]
  exact Iff.of_eq (congrArg (· = 0) hval)

/-- The checksum the scan puts together from its two bytes is the frame's. -/
theorem readChecksum_eq : (UInt8.ofNat f.checksum.toNat).toUInt16 |||
    (UInt8.ofNat (f.checksum.toNat / 256)).toUInt16 <<< 8 = f.checksum := by
  have hval := leValue_leBytes (n := 2) f.checksum.toNat_lt
  rw [le16_eq]
  exact (congrArg UInt16.ofNat hval).trans (UInt16.ofNat_toNat)

/-- The checks the scan makes at the start of a frame, on the fields of the frame. -/
theorem heartbeatAt_encode_eq {x : UInt8} (h9 : 9 ≤ f.payload.length)
    (hx : f.payload[5]? = some x) :
    heartbeatAt (f.encode ++ post) 0 = if f.msgID ≠ 0 then .ok false
      else if f.sysID = 0 ∨ f.sysID = 255 ∨ f.compID ≠ 1 then .ok false
      else if x ≠ 12 then .ok false
      else .ok (mavlinkCRC f.body 50 == f.checksum) := by
  have hfits : ¬ (f.payload.length < 9 ∨
      (f.encode ++ post).length < 10 + f.payload.length + 2) := by
    rw [List.length_append, length_encode]
    omega
  have hfive : byteAt f.payload 5 = .ok x := by rw [byteAt, hx]
  have h₀ : byteAt (f.encode ++ post) 0 = .ok 0xFD := rfl
  have h₁ : byteAt (f.encode ++ post) 1 = .ok (UInt8.ofNat f.payload.length) := rfl
  have h₅ : byteAt (f.encode ++ post) 5 = .ok f.sysID := rfl
  have h₆ : byteAt (f.encode ++ post) 6 = .ok f.compID := rfl
  have h₇ : byteAt (f.encode ++ post) 7 = .ok (UInt8.ofNat f.msgID) := rfl
  have h₈ : byteAt (f.encode ++ post) 8 = .ok (UInt8.ofNat (f.msgID / 256)) := rfl
  have h₉ : byteAt (f.encode ++ post) 9 = .ok (UInt8.ofNat (f.msgID / 256 / 256)) := rfl
  obtain ⟨hlow, hhigh⟩ := byteAt_checksum f post
  simp only [heartbeatAt, Nat.zero_add, h₀, h₁, h₅, h₆, h₇, h₈, h₉, Outcome.ok_bind, ne_eq,
    not_true_eq_false, if_false, toNat_length, hfits, f.readMsgID_eq_zero_iff, sliceAt_payload,
    hfive, sliceAt_body, hlow, hhigh, f.readChecksum_eq]
  rfl

/-- The scan at the start of a frame with a long enough payload. -/
theorem heartbeatAt_encode (h9 : 9 ≤ f.payload.length) :
    heartbeatAt (f.encode ++ post) 0 = .ok (decide f.IsPX4Heartbeat) := by
  obtain ⟨x, hx⟩ : ∃ x, f.payload[5]? = some x := ⟨_, List.getElem?_eq_getElem (by omega)⟩
  rw [heartbeatAt_encode_eq f post h9 hx]
  split_ifs with hmsg hsys hauto
  · rw [decide_eq_false fun h ↦ hmsg h.1]
  · rw [decide_eq_false fun h ↦ hsys.elim h.2.2.1 fun hsys ↦ hsys.elim h.2.2.2.1 (· h.2.2.2.2.1)]
  · rw [decide_eq_false fun h ↦ hauto (Option.some.inj (hx.symm.trans h.2.2.2.2.2.1))]
  · have hsys' : f.sysID ≠ 0 ∧ f.sysID ≠ 255 ∧ f.compID = 1 := by simpa [not_or] using hsys
    have hauto' : f.payload[5]? = some 12 := by rw [hx, not_not.mp hauto]
    have hiff : f.IsPX4Heartbeat ↔ mavlinkCRC f.body 50 = f.checksum :=
      ⟨fun h ↦ h.2.2.2.2.2.2.symm, fun h ↦ ⟨not_not.mp hmsg, h9, hsys'.1, hsys'.2.1, hsys'.2.2,
        hauto', h.symm⟩⟩
    rw [decide_eq_decide.mpr hiff]
    rfl

end Mavlink2Frame

theorem exists_header {buf : List UInt8} (hlen : 10 ≤ buf.length) :
    ∃ b₀ n b₂ b₃ b₄ sys comp m₀ m₁ m₂ tail,
      buf = b₀ :: n :: b₂ :: b₃ :: b₄ :: sys :: comp :: m₀ :: m₁ :: m₂ :: tail := by
  rcases buf with _ | ⟨b₀, _ | ⟨n, _ | ⟨b₂, _ | ⟨b₃, _ | ⟨b₄, _ | ⟨sys, _ | ⟨comp, _ | ⟨m₀, _ |
    ⟨m₁, _ | ⟨m₂, tail⟩⟩⟩⟩⟩⟩⟩⟩⟩⟩
  case cons.cons.cons.cons.cons.cons.cons.cons.cons.cons =>
    exact ⟨b₀, n, b₂, b₃, b₄, sys, comp, m₀, m₁, m₂, tail, rfl⟩
  all_goals simp at hlen

/-- Any header, a payload of the length it gives and two more bytes are a frame. -/
theorem exists_frame (n b₂ b₃ b₄ sys comp m₀ m₁ m₂ c₀ c₁ : UInt8) (payload post : List UInt8)
    (hn : payload.length = n.toNat) :
    ∃ f : Mavlink2Frame, f.payload = payload ∧
      0xFD :: n :: b₂ :: b₃ :: b₄ :: sys :: comp :: m₀ :: m₁ :: m₂ ::
        (payload ++ c₀ :: c₁ :: post) = f.encode ++ post := by
  have hsum : leBytes 2 (UInt16.ofNat (leValue [c₀, c₁])).toNat = [c₀, c₁] := by
    have hval : leValue [c₀, c₁] < 256 ^ 2 := leValue_lt [c₀, c₁]
    rw [UInt16.toNat_ofNat_of_lt' (Nat.lt_of_lt_of_eq hval (by decide))]
    exact leBytes_leValue [c₀, c₁]
  have hid : leBytes 3 (leValue [m₀, m₁, m₂]) = [m₀, m₁, m₂] := leBytes_leValue [m₀, m₁, m₂]
  refine ⟨⟨b₂, b₃, b₄, sys, comp, leValue [m₀, m₁, m₂], payload, UInt16.ofNat (leValue [c₀, c₁]),
    leValue_lt [m₀, m₁, m₂], ?_⟩, rfl, ?_⟩
  · rw [hn]
    exact Nat.le_of_lt_succ n.toNat_lt
  · simp only [Mavlink2Frame.encode, Mavlink2Frame.body, hn, hid, hsum, UInt8.ofNat_toNat,
      List.cons_append, List.append_assoc, List.nil_append]

theorem exists_payload {n : ℕ} {tail : List UInt8} (h : n + 2 ≤ tail.length) :
    ∃ payload c₀ c₁ post, payload.length = n ∧ tail = payload ++ c₀ :: c₁ :: post := by
  have hrest : 2 ≤ (tail.drop n).length := by
    rw [List.length_drop]
    omega
  rcases hdrop : tail.drop n with _ | ⟨c₀, _ | ⟨c₁, post⟩⟩
  case nil => simp [hdrop] at hrest
  case cons.nil => simp [hdrop] at hrest
  case cons.cons =>
    refine ⟨tail.take n, c₀, c₁, post, List.length_take_of_le (by omega), ?_⟩
    rw [← hdrop, List.take_append_drop]

/-- Where no frame with a long enough payload starts, the scan says no. -/
theorem heartbeatAt_of_no_frame {buf : List UInt8} (hlen : 12 ≤ buf.length)
    (hframe : ¬ ∃ (f : Mavlink2Frame) (post : List UInt8),
      buf = f.encode ++ post ∧ 9 ≤ f.payload.length) : heartbeatAt buf 0 = .ok false := by
  obtain ⟨b₀, n, b₂, b₃, b₄, sys, comp, m₀, m₁, m₂, tail, rfl⟩ :=
    exists_header (Nat.le_trans (by decide) hlen)
  have h₀ : byteAt (b₀ :: n :: b₂ :: b₃ :: b₄ :: sys :: comp :: m₀ :: m₁ :: m₂ :: tail) 0 =
    .ok b₀ := rfl
  have h₁ : byteAt (b₀ :: n :: b₂ :: b₃ :: b₄ :: sys :: comp :: m₀ :: m₁ :: m₂ :: tail) 1 =
    .ok n := rfl
  rw [heartbeatAt, h₀, Outcome.ok_bind]
  by_cases hstart : b₀ = 0xFD
  · rw [if_neg (not_not_intro hstart), Nat.zero_add, h₁, Outcome.ok_bind, if_pos]
    · rfl
    · -- A start byte with the announced bytes behind it is the start of a frame.
      by_contra hfits
      rw [not_or, Nat.not_lt, Nat.not_lt] at hfits
      obtain ⟨payload, c₀, c₁, post, hn, rfl⟩ : ∃ payload c₀ c₁ post,
          payload.length = n.toNat ∧ tail = payload ++ c₀ :: c₁ :: post := by
        apply exists_payload
        have hfits := hfits.2
        simp only [List.length_cons] at hfits
        omega
      obtain ⟨f, hpayload, hbuf⟩ :=
        exists_frame n b₂ b₃ b₄ sys comp m₀ m₁ m₂ c₀ c₁ payload post hn
      exact hframe ⟨f, post, hstart ▸ hbuf, by rw [hpayload, hn]; exact hfits.1⟩
  · rw [if_pos hstart]
    rfl

/-- One offset with at least twelve bytes left: the scan answers, and says yes exactly at the start
of a heartbeat of the autopilot. -/
theorem heartbeatAt_spec {buf : List UInt8} (hlen : 12 ≤ buf.length) :
    ∃ b, heartbeatAt buf 0 = .ok b ∧
      (b = true ↔ ∃ (f : Mavlink2Frame) (post : List UInt8),
        buf = f.encode ++ post ∧ f.IsPX4Heartbeat) := by
  by_cases hframe : ∃ (f : Mavlink2Frame) (post : List UInt8),
      buf = f.encode ++ post ∧ 9 ≤ f.payload.length
  · obtain ⟨f, post, rfl, h9⟩ := hframe
    refine ⟨_, f.heartbeatAt_encode post h9, fun h ↦ ⟨f, post, rfl, of_decide_eq_true h⟩, ?_⟩
    rintro ⟨g, rest, heq, hg⟩
    have hscan := g.heartbeatAt_encode rest hg.2.1
    rw [← heq, f.heartbeatAt_encode post h9, Outcome.ok.injEq] at hscan
    rw [hscan, decide_eq_true hg]
  · exact ⟨false, heartbeatAt_of_no_frame hlen hframe,
      nofun, fun ⟨f, post, heq, hf⟩ ↦ absurd ⟨f, post, heq, hf.2.1⟩ hframe⟩

/-! ### All offsets -/

/-- A heartbeat of the autopilot starts somewhere in the buffer. -/
def HasPX4Heartbeat (buf : List UInt8) : Prop :=
  ∃ (pre : List UInt8) (f : Mavlink2Frame) (post : List UInt8),
    buf = pre ++ f.encode ++ post ∧ f.IsPX4Heartbeat

/-- The scan answers for every buffer, and finds what is there. -/
theorem frameHasPX4Heartbeat_spec (buf : List UInt8) :
    ∃ b, frameHasPX4Heartbeat buf = .ok b ∧ (b = true ↔ HasPX4Heartbeat buf) := by
  have hat (i : ℕ) (hi : i ∈ List.range (buf.length - 11)) :
      ∃ b, heartbeatAt buf i = .ok b ∧ (b = true ↔ ∃ (f : Mavlink2Frame) (post : List UInt8),
        buf.drop i = f.encode ++ post ∧ f.IsPX4Heartbeat) := by
    rw [List.mem_range] at hi
    have hlen : (buf.take i).length = i := List.length_take_of_le (by omega)
    have happ := heartbeatAt_append (buf.take i) (buf.drop i)
    rw [List.take_append_drop, hlen] at happ
    rw [happ]
    apply heartbeatAt_spec
    rw [List.length_drop]
    omega
  choose! yes hyes hiff using hat
  refine ⟨_, anyIndex_eq_ok hyes, ?_⟩
  rw [List.any_eq_true]
  constructor
  · rintro ⟨i, hi, hy⟩
    obtain ⟨f, post, hdrop, hf⟩ := (hiff i hi).mp hy
    refine ⟨buf.take i, f, post, ?_, hf⟩
    rw [List.append_assoc, ← hdrop, List.take_append_drop]
  · rintro ⟨pre, f, post, rfl, hf⟩
    have hmem : pre.length ∈ List.range ((pre ++ f.encode ++ post).length - 11) := by
      rw [List.mem_range, List.length_append, List.length_append, f.length_encode]
      omega
    refine ⟨pre.length, hmem, (hiff _ hmem).mpr ⟨f, post, ?_, hf⟩⟩
    rw [List.append_assoc, List.drop_left]

/-! ### A heartbeat alone -/

theorem HasPX4Heartbeat.alone {buf : List UInt8} (h : HasPX4Heartbeat buf)
    (hlen : buf.length = 21) :
    ∃ f : Mavlink2Frame, buf = f.encode ∧ f.payload.length = 9 ∧ f.IsPX4Heartbeat := by
  obtain ⟨pre, f, post, rfl, hf⟩ := h
  have h9 := hf.2.1
  rw [List.length_append, List.length_append, f.length_encode] at hlen
  obtain rfl : pre = [] := List.eq_nil_of_length_eq_zero (by omega)
  obtain rfl : post = [] := List.eq_nil_of_length_eq_zero (by omega)
  exact ⟨f, by simp, by omega, hf⟩

theorem frameHasPX4Heartbeat_encode (f : Mavlink2Frame) (h9 : f.payload.length = 9) :
    frameHasPX4Heartbeat f.encode = .ok (decide f.IsPX4Heartbeat) := by
  obtain ⟨b, hb, hiff⟩ := frameHasPX4Heartbeat_spec f.encode
  have hself : HasPX4Heartbeat f.encode ↔ f.IsPX4Heartbeat := by
    constructor
    · intro h
      obtain ⟨g, heq, -, hg⟩ := h.alone (by rw [f.length_encode, h9])
      -- both frames are read from the same bytes
      have hscan := g.heartbeatAt_encode [] hg.2.1
      rw [← heq, f.heartbeatAt_encode [] (by omega), Outcome.ok.injEq] at hscan
      exact (decide_eq_decide.mp hscan).mpr hg
    · intro hf
      exact ⟨[], f, [], by simp, hf⟩
  rw [hb, Outcome.ok.injEq, Bool.eq_iff_iff, hiff, hself, decide_eq_true_iff]

structure Heartbeat where
  customMode : UInt32
  type : UInt8
  autopilot : UInt8
  baseMode : UInt8
  systemStatus : UInt8
  mavlinkVersion : UInt8
  deriving DecidableEq, Repr

namespace Heartbeat

def fields (h : Heartbeat) : List UInt8 :=
  leBytes 4 h.customMode.toNat ++
    [h.type, h.autopilot, h.baseMode, h.systemStatus, h.mavlinkVersion]

/-- MAVLink 2 leaves out zeros at the end of a payload, all but the first byte. -/
def payload (h : Heartbeat) : List UInt8 :=
  h.fields.take 1 ++ (h.fields.drop 1).rdropWhile (· == 0)

theorem payload_eq {h : Heartbeat} (hversion : h.mavlinkVersion ≠ 0) : h.payload = h.fields := by
  have hlast (l : List UInt8) : (l ++ [h.mavlinkVersion]).rdropWhile (· == 0) =
      l ++ [h.mavlinkVersion] :=
    List.rdropWhile_concat_neg _ _ _ (by simpa using hversion)
  have hfields : h.fields.drop 1 = (h.fields.drop 1).dropLast ++ [h.mavlinkVersion] := rfl
  rw [payload, hfields, hlast, ← hfields, List.take_append_drop]

theorem length_payload_le (h : Heartbeat) : h.payload.length ≤ 9 := by
  have hdrop := (List.rdropWhile_prefix (· == 0) (h.fields.drop 1)).length_le
  have hfields : (h.fields.take 1).length = 1 ∧ (h.fields.drop 1).length = 8 := ⟨rfl, rfl⟩
  rw [payload, List.length_append]
  omega

/-- The message alone in a frame without signature. -/
def frame (h : Heartbeat) (compatFlags seq sysID compID : UInt8) : Mavlink2Frame :=
  let f : Mavlink2Frame :=
    { incompatFlags := 0, compatFlags, seq, sysID, compID, msgID := 0, payload := h.payload
      checksum := 0
      msgID_lt := by decide
      payload_le := Nat.le_trans h.length_payload_le (by decide) }
  { f with checksum := mavlinkCRC f.body 50 }

theorem isPX4Heartbeat_frame {h : Heartbeat} (hversion : h.mavlinkVersion ≠ 0)
    (compatFlags seq sysID compID : UInt8) :
    (h.frame compatFlags seq sysID compID).IsPX4Heartbeat ↔
      isPX4AutopilotHeartbeat sysID compID (some h.autopilot) = true := by
  have hpayload : (h.frame compatFlags seq sysID compID).payload = h.fields := payload_eq hversion
  have hsum : (h.frame compatFlags seq sysID compID).checksum =
      mavlinkCRC (h.frame compatFlags seq sysID compID).body 50 := rfl
  have h9 : 9 ≤ h.fields.length := Nat.le_refl 9
  have hauto : h.fields[5]? = some h.autopilot := rfl
  rw [Mavlink2Frame.IsPX4Heartbeat, hpayload, hauto, isPX4AutopilotHeartbeat, mavAutopilotPX4]
  constructor
  · rintro ⟨-, -, hzero, h255, hcomp, h12, -⟩
    have hcomp : compID = 1 := hcomp
    rw [if_neg (by simp [hcomp, show sysID ≠ 0 from hzero, show sysID ≠ 255 from h255])]
    exact decide_eq_true (Option.some.inj h12)
  · intro hpx4
    split at hpx4
    case isTrue => exact absurd hpx4 (by simp)
    case isFalse hsys =>
      rw [not_or, not_or, not_not] at hsys
      exact ⟨rfl, h9, hsys.1, hsys.2.1, hsys.2.2, congrArg some (of_decide_eq_true hpx4), hsum⟩

end Heartbeat

/-- **Heartbeats in datagrams.** The scan never reads out of range, and says yes exactly when the
frame of a PX4 heartbeat with a correct checksum lies somewhere in the datagram. It agrees with
`isPX4AutopilotHeartbeat` on a HEARTBEAT alone in a frame. -/
theorem frameHasPX4Heartbeat_iff :
    (∀ buf, ∃ b, frameHasPX4Heartbeat buf = .ok b ∧
      (b = true ↔ ∃ (pre : List UInt8) (f : Mavlink2Frame) (post : List UInt8),
        buf = pre ++ f.encode ++ post ∧ f.IsPX4Heartbeat)) ∧
    ∀ (h : Heartbeat) (compatFlags seq sysID compID : UInt8), h.mavlinkVersion ≠ 0 →
      frameHasPX4Heartbeat (h.frame compatFlags seq sysID compID).encode =
        .ok (isPX4AutopilotHeartbeat sysID compID (some h.autopilot)) ∧
      (isPX4AutopilotHeartbeat sysID compID (some h.autopilot) = true →
        ∀ pre post, frameHasPX4Heartbeat
          (pre ++ (h.frame compatFlags seq sysID compID).encode ++ post) = .ok true) := by
  refine ⟨frameHasPX4Heartbeat_spec, fun h compatFlags seq sysID compID hversion ↦ ⟨?_, ?_⟩⟩
  · have h9 : (h.frame compatFlags seq sysID compID).payload.length = 9 :=
      congrArg List.length (Heartbeat.payload_eq hversion)
    have hiff := Heartbeat.isPX4Heartbeat_frame hversion compatFlags seq sysID compID
    rw [frameHasPX4Heartbeat_encode _ h9, Outcome.ok.injEq, Bool.eq_iff_iff, decide_eq_true_iff,
      hiff]
  · intro hpx4 pre post
    have hf := (Heartbeat.isPX4Heartbeat_frame hversion compatFlags seq sysID compID).mpr hpx4
    obtain ⟨b, hb, hiff⟩ := frameHasPX4Heartbeat_spec
      (pre ++ (h.frame compatFlags seq sysID compID).encode ++ post)
    rw [hb, hiff.mpr ⟨pre, _, post, rfl, hf⟩]

/-- A heartbeat of the autopilot behind a start byte that claims 200 bytes. -/
theorem frameHasPX4Heartbeat_iff_behind_start :
    frameHasPX4Heartbeat ([0xFD, 200] ++
      (Heartbeat.frame ⟨0, 2, 12, 0, 4, 3⟩ 0 0 1 1).encode ++ []) = .ok true :=
  (frameHasPX4Heartbeat_iff.2 ⟨0, 2, 12, 0, 4, 3⟩ 0 0 1 1 (by decide)).2 rfl [0xFD, 200] []

end DroneBridge
