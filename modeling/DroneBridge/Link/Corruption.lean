import DroneBridge.Lib.Crc
import DroneBridge.Lib.Delimited
import DroneBridge.Link.Heartbeat

/-!
# Corrupted heartbeats

The checksum of a frame is computed byte by byte. It is the check of the polynomial
`x^16 + x^12 + x^5 + 1`, fed with the bits of each byte, lowest first (`crcAccumulate_eq_feed`). So
it is the check that the catalogue of CRCs has as CRC-16/MCRF4XX, and it sees every burst of at most
sixteen bits. A heartbeat alone in a datagram leaves no room for a second frame, so what the
checksum sees, the scan rejects, wherever the length or the start byte has gone.
-/

namespace DroneBridge

/-! ## Bits -/

/-- The bits of a byte, lowest first. -/
def byteBits (b : UInt8) : List Bool := (List.range 8).map b.toBitVec.getLsbD

/-- The bits of a message in the order the checksum takes them in. -/
def bitsOf (data : List UInt8) : List Bool := data.flatMap byteBits

theorem getElem?_byteBits {b : UInt8} {i : ℕ} (hi : i < 8) :
    (byteBits b)[i]? = some (b.toBitVec.getLsbD i) := by
  rw [byteBits, List.getElem?_map, List.getElem?_range hi, Option.map_some]

theorem byteBits_xor (b c : UInt8) :
    byteBits (b ^^^ c) = List.zipWith xor (byteBits b) (byteBits c) := by
  simp [byteBits, List.zipWith_map, BitVec.getLsbD_xor]

theorem byteBits_inj {b c : UInt8} (h : byteBits b = byteBits c) : b = c := by
  rw [← UInt8.toBitVec_inj]
  apply BitVec.eq_of_getLsbD_eq
  intro i hi
  have hbit := congrArg (·[i]?) h
  simpa only [getElem?_byteBits hi, Option.some.injEq] using hbit

/-! ## The checksum of bits -/

/-- The reflected polynomial. -/
def crcPolynomial : BitVec 16 := 0x8408#16

theorem crcAccumulate_zero : ∀ n < 256, (crcAccumulate (UInt8.ofNat n) 0).toBitVec =
    Crc.feed crcPolynomial 0#16 (byteBits (UInt8.ofNat n)) := by
  decide +kernel

theorem toUInt8_and_low (s : UInt16) : (s &&& 0xFF).toUInt8 = s.toUInt8 := by
  rw [UInt16.toUInt8_and]
  exact UInt8.and_neg_one

/-- The low byte of the register is added to the message, the high byte shifts. -/
theorem crcAccumulate_eq (b : UInt8) (s : UInt16) :
    crcAccumulate b s = s >>> 8 ^^^ crcAccumulate (s.toUInt8 ^^^ b) 0 := by
  have hlow : UInt16.toUInt8 0 = 0 := rfl
  have hhigh : (0 : UInt16) >>> 8 = 0 := rfl
  simp only [crcAccumulate, toUInt8_and_low, hlow, hhigh, UInt8.zero_xor, UInt16.zero_xor,
    UInt16.xor_assoc]

theorem crcAccumulate_eq_feed (b : UInt8) (s : UInt16) :
    (crcAccumulate b s).toBitVec = Crc.feed crcPolynomial s.toBitVec (byteBits b) := by
  have hbits : byteBits b = List.zipWith xor (byteBits s.toUInt8) (byteBits (s.toUInt8 ^^^ b)) := by
    rw [← byteBits_xor, ← UInt8.xor_assoc, UInt8.xor_self, UInt8.zero_xor]
  have htable := crcAccumulate_zero (s.toUInt8 ^^^ b).toNat (UInt8.toNat_lt _)
  have hshift : Crc.feed crcPolynomial s.toBitVec (byteBits s.toUInt8) = s.toBitVec >>> 8 := by
    refine Crc.feed_eq_shift fun i hi ↦ ?_
    have hi : i < 8 := hi
    rw [getElem?_byteBits hi, UInt16.toBitVec_toUInt8, BitVec.getLsbD_setWidth,
      decide_eq_true hi, Bool.true_and]
  have hlinear : Crc.feed crcPolynomial (s.toBitVec ^^^ 0#16)
      (List.zipWith xor (byteBits s.toUInt8) (byteBits (s.toUInt8 ^^^ b))) =
        Crc.feed crcPolynomial s.toBitVec (byteBits s.toUInt8) ^^^
          Crc.feed crcPolynomial 0#16 (byteBits (s.toUInt8 ^^^ b)) := Crc.feed_xor rfl
  rw [UInt8.ofNat_toNat] at htable
  rw [BitVec.xor_zero, ← hbits, hshift, ← htable] at hlinear
  rw [hlinear, crcAccumulate_eq, UInt16.toBitVec_xor]
  rfl

theorem foldl_eq_feed (data : List UInt8) (s : UInt16) :
    (data.foldl (fun crc b ↦ crcAccumulate b crc) s).toBitVec =
      Crc.feed crcPolynomial s.toBitVec (bitsOf data) := by
  induction data generalizing s with
  | nil => rfl
  | cons b data ih =>
    rw [List.foldl_cons, ih, crcAccumulate_eq_feed, ← Crc.feed_append]
    rfl

theorem mavlinkCRC_eq_feed (data : List UInt8) (extra : UInt8) :
    (mavlinkCRC data extra).toBitVec =
      Crc.feed crcPolynomial 0xFFFF#16 (bitsOf data ++ byteBits extra) := by
  rw [mavlinkCRC, crcAccumulate_eq_feed, foldl_eq_feed, ← Crc.feed_append]
  rfl

/-! ## The catalogued check

The catalogue of CRCs has the checksum as CRC-16/MCRF4XX, given bit by bit. -/

/-- The register takes in a bit: it shifts down, and the polynomial is added if the bit that falls
out differs. -/
def crc16Bit (crc : UInt16) (bit : Bool) : UInt16 :=
  if (crc &&& 1 == 1) ^^ bit then crc >>> 1 ^^^ 0x8408 else crc >>> 1

/-- CRC-16/MCRF4XX: all ones at first, lowest bits first, and nothing added at the end. -/
def crc16Mcrf4xx (data : List UInt8) : UInt16 := (bitsOf data).foldl crc16Bit 0xFFFF

theorem low_bit_eq_getLsbD (crc : UInt16) : (crc &&& 1 == 1) = crc.toBitVec.getLsbD 0 := by
  have hand : (crc &&& 1).toBitVec =
      BitVec.setWidth 16 (BitVec.ofBool (crc.toBitVec.getLsbD 0)) := by
    rw [UInt16.toBitVec_and]
    exact BitVec.and_one_eq_setWidth_ofBool_getLsbD
  rw [Bool.eq_iff_iff, beq_iff_eq, ← UInt16.toBitVec_inj, hand]
  cases crc.toBitVec.getLsbD 0 <;> decide

theorem toBitVec_crc16Bit (crc : UInt16) (bit : Bool) :
    (crc16Bit crc bit).toBitVec = Crc.step crcPolynomial crc.toBitVec bit := by
  rw [crc16Bit, Crc.step, low_bit_eq_getLsbD]
  split_ifs
  · rw [UInt16.toBitVec_xor, UInt16.toBitVec_shiftRight]
    rfl
  · rw [UInt16.toBitVec_shiftRight, BitVec.xor_zero]
    rfl

theorem toBitVec_foldl_crc16Bit (bits : List Bool) (crc : UInt16) :
    (bits.foldl crc16Bit crc).toBitVec = Crc.feed crcPolynomial crc.toBitVec bits := by
  induction bits generalizing crc with
  | nil => rfl
  | cons bit bits ih => rw [List.foldl_cons, ih, toBitVec_crc16Bit, Crc.feed_cons]

/-- **The checksum is the catalogued one** of the message with the extra byte at its end. -/
theorem mavlinkCRC_eq_crc16Mcrf4xx (data : List UInt8) (extra : UInt8) :
    mavlinkCRC data extra = crc16Mcrf4xx (data ++ [extra]) := by
  rw [← UInt16.toBitVec_inj, crc16Mcrf4xx, toBitVec_foldl_crc16Bit, mavlinkCRC_eq_feed]
  have hbits : bitsOf (data ++ [extra]) = bitsOf data ++ byteBits extra := by
    rw [bitsOf, bitsOf, List.flatMap_append, List.flatMap_singleton]
  rw [hbits]
  rfl

/-- The check value of the catalogue, which is that of the digits from 1 to 9. -/
example : crc16Mcrf4xx [0x31, 0x32, 0x33, 0x34, 0x35, 0x36, 0x37, 0x38, 0x39] = 0x6F91 := by
  decide +kernel

/-! ## Bursts -/

theorem length_bitsOf (data : List UInt8) : (bitsOf data).length = 8 * data.length := by
  induction data with
  | nil => rfl
  | cons b data ih =>
    have hcons : bitsOf (b :: data) = byteBits b ++ bitsOf data := rfl
    have hbyte : (byteBits b).length = 8 := rfl
    rw [hcons, List.length_append, ih, hbyte, List.length_cons]
    omega

theorem bitsOf_inj {a b : List UInt8} (h : bitsOf a = bitsOf b) : a = b := by
  have hdelim : Delimited (fun _ ↦ True) byteBits :=
    .of_length (n := 8) (fun _ _ ↦ rfl) fun _ _ _ _ ↦ byteBits_inj
  exact hdelim.flatMap_inj (fun _ ↦ List.cons_ne_nil _ _) h

/-- Messages with one checksum do not differ in a burst of at most sixteen bits. -/
theorem mavlinkCRC_ne_of_burst {a b : List UInt8} (hlen : a.length = b.length) (hne : a ≠ b)
    (lo : ℕ) (hburst : ∀ i, (bitsOf a)[i]? ≠ (bitsOf b)[i]? → lo ≤ i ∧ i < lo + 16)
    (extra : UInt8) : mavlinkCRC a extra ≠ mavlinkCRC b extra := by
  intro hcrc
  have hlen' : (bitsOf a).length = (bitsOf b).length := by
    rw [length_bitsOf, length_bitsOf, hlen]
  have hfeed := congrArg UInt16.toBitVec hcrc
  rw [mavlinkCRC_eq_feed, mavlinkCRC_eq_feed] at hfeed
  refine Crc.feed_ne_of_burst (by decide) (by decide) ?_ ?_ (fun i hi ↦ hburst i ?_) hfeed
  · rw [List.length_append, List.length_append, hlen']
  · rw [ne_eq, List.append_left_inj]
    exact fun hbits ↦ hne (bitsOf_inj hbits)
  · intro hsame
    apply hi
    rw [List.getElem?_append, List.getElem?_append, hsame, hlen']

/-! ## Changes of a message -/

theorem bitsOf_take (a : List UInt8) (k : ℕ) : bitsOf (a.take k) = (bitsOf a).take (8 * k) := by
  induction a generalizing k with
  | nil => simp [bitsOf]
  | cons b a ih =>
    rcases k with _ | k
    · rfl
    · have hcons : bitsOf (b :: a) = byteBits b ++ bitsOf a := rfl
      have htake : bitsOf ((b :: a).take (k + 1)) = byteBits b ++ bitsOf (a.take k) := rfl
      have hlen : 8 * (k + 1) = (byteBits b).length + 8 * k := by
        change 8 * (k + 1) = 8 + 8 * k
        omega
      rw [htake, ih, hcons, hlen, List.take_length_add_append]

theorem bitsOf_drop (a : List UInt8) (k : ℕ) : bitsOf (a.drop k) = (bitsOf a).drop (8 * k) := by
  induction a generalizing k with
  | nil => simp [bitsOf]
  | cons b a ih =>
    rcases k with _ | k
    · rfl
    · have hcons : bitsOf (b :: a) = byteBits b ++ bitsOf a := rfl
      have hlen : 8 * (k + 1) = (byteBits b).length + 8 * k := by
        change 8 * (k + 1) = 8 + 8 * k
        omega
      rw [List.drop_succ_cons, ih, hcons, hlen, List.drop_length_add_append]

/-- Two messages of one length that differ, and only in bits from `lo` up to `hi`. -/
structure DiffersWithin (lo hi : ℕ) (a b : List UInt8) : Prop where
  length : a.length = b.length
  ne : a ≠ b
  within : ∀ i, (bitsOf a)[i]? ≠ (bitsOf b)[i]? → lo ≤ i ∧ i < hi

namespace DiffersWithin

variable {lo hi k : ℕ} {a b : List UInt8}

theorem getElem?_eq (h : DiffersWithin lo hi a b) {i : ℕ} (hi' : i < lo ∨ hi ≤ i) :
    (bitsOf a)[i]? = (bitsOf b)[i]? := by
  by_contra hne
  have hin := h.within i hne
  omega

theorem take_eq (h : DiffersWithin lo hi a b) (hk : 8 * k ≤ lo) : a.take k = b.take k := by
  apply bitsOf_inj
  rw [bitsOf_take, bitsOf_take]
  apply List.ext_getElem?
  intro i
  rw [List.getElem?_take, List.getElem?_take]
  split
  case isTrue hlt => exact h.getElem?_eq (.inl (by omega))
  case isFalse => rfl

theorem drop_eq (h : DiffersWithin lo hi a b) (hk : hi ≤ 8 * k) : a.drop k = b.drop k := by
  apply bitsOf_inj
  rw [bitsOf_drop, bitsOf_drop]
  apply List.ext_getElem?
  intro i
  rw [List.getElem?_drop, List.getElem?_drop]
  exact h.getElem?_eq (.inr (by omega))

end DiffersWithin

/-! ## Changes of a heartbeat -/

namespace Mavlink2Frame

variable {f g : Mavlink2Frame}

theorem encode_eq : f.encode = (0xFD :: f.body) ++ leBytes 2 f.checksum.toNat := rfl

theorem checksum_eq_of_leBytes (h : leBytes 2 f.checksum.toNat = leBytes 2 g.checksum.toNat) :
    f.checksum = g.checksum := by
  have hval := congrArg leValue h
  rwa [leValue_leBytes f.checksum.toNat_lt, leValue_leBytes g.checksum.toNat_lt,
    UInt16.toNat_inj] at hval

variable (h9 : f.payload.length = 9)

include h9

theorem take_encode : f.encode.take 19 = 0xFD :: f.body := by
  rw [encode_eq, List.take_left' (by rw [List.length_cons, length_body, h9])]

theorem drop_encode : f.encode.drop 19 = leBytes 2 f.checksum.toNat := by
  rw [encode_eq, List.drop_left' (by rw [List.length_cons, length_body, h9])]

theorem bitsOf_body : bitsOf f.body = ((bitsOf f.encode).take 152).drop 8 := by
  have hbody : f.body = (f.encode.take 19).drop 1 := by rw [take_encode h9]; rfl
  rw [hbody, bitsOf_drop, bitsOf_take]

variable (hf : f.IsPX4Heartbeat) (hg : g.IsPX4Heartbeat) (hg9 : g.payload.length = 9)

include hf hg hg9

/-- Two heartbeats do not differ in a burst under their checksums. -/
theorem not_burst {lo n : ℕ} (hn : n ≤ 16) (hlo : 8 ≤ lo) (hhi : lo + n ≤ 152) :
    ¬ DiffersWithin lo (lo + n) f.encode g.encode := by
  intro h
  have hsum : f.checksum = g.checksum := by
    have hdrop : f.encode.drop 19 = g.encode.drop 19 := h.drop_eq hhi
    rw [drop_encode h9, drop_encode hg9] at hdrop
    exact checksum_eq_of_leBytes hdrop
  have hbody : f.body ≠ g.body := by
    intro heq
    exact h.ne (by rw [encode_eq, encode_eq, heq, hsum])
  refine mavlinkCRC_ne_of_burst ?_ hbody (lo - 8) (fun i hi ↦ ?_) 50 ?_
  · rw [length_body, length_body, h9, hg9]
  · by_contra hout
    apply hi
    rw [bitsOf_body h9, bitsOf_body hg9, List.getElem?_drop, List.getElem?_drop,
      List.getElem?_take, List.getElem?_take, h.getElem?_eq (by omega)]
  · rw [← hf.2.2.2.2.2.2, ← hg.2.2.2.2.2.2, hsum]

theorem not_checksum {hi : ℕ} : ¬ DiffersWithin 152 hi f.encode g.encode := by
  intro h
  have hbody : f.body = g.body := by
    have htake : f.encode.take 19 = g.encode.take 19 := h.take_eq (Nat.le_refl 152)
    rw [take_encode h9, take_encode hg9] at htake
    exact (List.cons.inj htake).2
  have hsum : f.checksum = g.checksum := by rw [hf.2.2.2.2.2.2, hg.2.2.2.2.2.2, hbody]
  exact h.ne (by rw [encode_eq, encode_eq, hbody, hsum])

end Mavlink2Frame

/-- **Corrupted heartbeats.** A burst of at most sixteen bits within the 18 bytes under the
checksum, or any change of the two checksum bytes, makes the scan reject a heartbeat. -/
theorem corrupted_heartbeat_rejected {buf buf' : List UInt8} (hlen : buf.length = 21)
    (hacc : frameHasPX4Heartbeat buf = .ok true)
    (hchange : (∃ lo n, n ≤ 16 ∧ 8 ≤ lo ∧ lo + n ≤ 152 ∧ DiffersWithin lo (lo + n) buf buf') ∨
      DiffersWithin 152 168 buf buf') :
    frameHasPX4Heartbeat buf' = .ok false := by
  have hlen' : buf'.length = 21 := by
    rcases hchange with ⟨_, _, _, _, _, h⟩ | h <;> rw [← h.length, hlen]
  obtain ⟨b, hb, hiff⟩ := frameHasPX4Heartbeat_spec buf
  obtain ⟨b', hb', hiff'⟩ := frameHasPX4Heartbeat_spec buf'
  rw [hb, Outcome.ok.injEq] at hacc
  obtain ⟨f, rfl, h9, hf⟩ := (hiff.mp hacc).alone hlen
  rw [hb', Outcome.ok.injEq, ← Bool.not_eq_true]
  intro htrue
  obtain ⟨g, rfl, hg9, hg⟩ := (hiff'.mp htrue).alone hlen'
  rcases hchange with ⟨lo, n, hn, hlo, hhi, h⟩ | h
  · exact Mavlink2Frame.not_burst h9 hf hg hg9 hn hlo hhi h
  · exact Mavlink2Frame.not_checksum h9 hf hg hg9 h

/-- The lowest bit of the sequence number is flipped. -/
theorem corrupted_heartbeat_rejected_seq :
    frameHasPX4Heartbeat (Heartbeat.frame ⟨0, 2, 12, 0, 4, 3⟩ 0 0 1 1).encode = .ok true ∧
      frameHasPX4Heartbeat
        ((Heartbeat.frame ⟨0, 2, 12, 0, 4, 3⟩ 0 0 1 1).encode.set 4 1) = .ok false := by
  have hacc : frameHasPX4Heartbeat
      (Heartbeat.frame ⟨0, 2, 12, 0, 4, 3⟩ 0 0 1 1).encode = .ok true := by decide +kernel
  have hbits : ∀ i < 168, (bitsOf (Heartbeat.frame ⟨0, 2, 12, 0, 4, 3⟩ 0 0 1 1).encode)[i]? ≠
      (bitsOf ((Heartbeat.frame ⟨0, 2, 12, 0, 4, 3⟩ 0 0 1 1).encode.set 4 1))[i]? →
        32 ≤ i ∧ i < 33 := by decide +kernel
  refine ⟨hacc, corrupted_heartbeat_rejected rfl hacc (.inl ⟨32, 1, by decide, by decide, by decide,
    rfl, by decide +kernel, fun i hi ↦ ?_⟩)⟩
  rcases Nat.lt_or_ge i 168 with hlt | hge
  · exact hbits i hlt hi
  · exact absurd hi (by rw [List.getElem?_eq_none hge, List.getElem?_eq_none hge]; simp)

end DroneBridge
