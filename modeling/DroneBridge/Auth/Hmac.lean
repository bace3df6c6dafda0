import DroneBridge.Auth.Protocol
import DroneBridge.Auth.Request

/-!
# The authenticated text

A drone answers a challenge with the HMAC of `uuid:nonce:timestamp`, the nonce in hexadecimal and
the timestamp in decimal. The uuid is any string and may hold colons, so the text is read from its
end: neither decimal nor hexadecimal digits hold one. The hash functions are parameters; what is
proved about the answers is that two different triples are never the same text.
-/

namespace DroneBridge

/-! ## Text of bytes and numbers -/

/-- A digit of `0123456789abcdef`. -/
def hexNibble (n : UInt8) : UInt8 := if n < 10 then 0x30 + n else 0x61 + (n - 10)

def hexByte (b : UInt8) : List UInt8 := [hexNibble (b >>> 4), hexNibble (b &&& 0x0f)]

def encodeToString (src : List UInt8) : List UInt8 := src.flatMap hexByte

def formatDecimal (n : UInt64) : List UInt8 :=
  (Nat.toDigits 10 n.toNat).map fun c ↦ UInt8.ofNat c.toNat

def separator : UInt8 := 0x3a

theorem hexNibble_inj {m n : UInt8} (hm : m < 16) (hn : n < 16) (h : hexNibble m = hexNibble n) :
    m = n := by
  rw [hexNibble, hexNibble] at h
  split at h <;> split at h <;> grind

theorem hexNibble_ne_separator {n : UInt8} (hn : n < 16) : hexNibble n ≠ separator := by
  rw [hexNibble, separator]
  split <;> grind

theorem toNat_high (b : UInt8) : (b >>> 4).toNat = b.toNat / 16 := by
  rw [UInt8.toNat_shiftRight]
  exact Nat.shiftRight_eq_div_pow b.toNat 4

theorem toNat_low (b : UInt8) : (b &&& 0x0f).toNat = b.toNat % 16 := by
  rw [UInt8.toNat_and]
  exact Nat.and_two_pow_sub_one_eq_mod b.toNat 4

theorem halves_lt (b : UInt8) : b >>> 4 < 16 ∧ b &&& 0x0f < 16 := by
  have hb := b.toNat_lt
  rw [UInt8.lt_iff_toNat_lt, UInt8.lt_iff_toNat_lt, toNat_high, toNat_low]
  exact ⟨by grind, Nat.mod_lt _ (by decide)⟩

theorem hexByte_inj {b c : UInt8} (h : hexByte b = hexByte c) : b = c := by
  have hdigits := List.cons.inj h
  have hhigh := hexNibble_inj (halves_lt b).1 (halves_lt c).1 hdigits.1
  have hlow := hexNibble_inj (halves_lt b).2 (halves_lt c).2 (List.cons.inj hdigits.2).1
  rw [← UInt8.toNat_inj, toNat_high, toNat_high] at hhigh
  rw [← UInt8.toNat_inj, toNat_low, toNat_low] at hlow
  rw [← UInt8.toNat_inj, ← Nat.div_add_mod b.toNat 16, hhigh, hlow, Nat.div_add_mod]

theorem encodeToString_inj {a b : List UInt8} (h : encodeToString a = encodeToString b) :
    a = b := by
  have hdelim : Delimited (fun _ ↦ True) hexByte :=
    .of_length (n := 2) (fun _ _ ↦ rfl) fun _ _ _ _ ↦ hexByte_inj
  exact hdelim.flatMap_inj (fun _ ↦ List.cons_ne_nil _ _) h

theorem separator_notMem_encodeToString (a : List UInt8) : separator ∉ encodeToString a := by
  intro hmem
  obtain ⟨b, -, hb⟩ := List.mem_flatMap.mp hmem
  obtain ⟨hhigh, hlow⟩ := halves_lt b
  rcases List.mem_pair.mp hb with hsep | hsep
  · exact hexNibble_ne_separator hhigh hsep.symm
  · exact hexNibble_ne_separator hlow hsep.symm

/-- The bytes of decimal digits lie between those of `0` and `9`. -/
theorem digit_of_mem {n : ℕ} {c : Char} (hc : c ∈ Nat.toDigits 10 n) :
    48 ≤ c.toNat ∧ c.toNat ≤ 57 :=
  Char.isDigit_iff_toNat.mp (Nat.isDigit_of_mem_toDigits (by decide) (by decide) hc)

theorem formatDecimal_inj {m n : UInt64} (h : formatDecimal m = formatDecimal n) : m = n := by
  -- the characters are read back from their bytes
  have hback (k : UInt64) : (formatDecimal k).map (fun b ↦ Char.ofNat b.toNat) =
      Nat.toDigits 10 k.toNat := by
    rw [formatDecimal, List.map_map]
    refine (List.map_congr_left fun c hc ↦ ?_).trans (List.map_id _)
    have hdigit := digit_of_mem hc
    rw [Function.comp_apply, UInt8.toNat_ofNat', Nat.mod_eq_of_lt (by omega), Char.ofNat_toNat]
    rfl
  have hdigits : Nat.toDigits 10 m.toNat = Nat.toDigits 10 n.toNat := by
    rw [← hback m, h, hback n]
  rw [← UInt64.toNat_inj, ← Nat.ofDigitChars_ten_toDigits (n := m.toNat), hdigits,
    Nat.ofDigitChars_ten_toDigits]

theorem separator_notMem_formatDecimal (n : UInt64) : separator ∉ formatDecimal n := by
  intro hmem
  obtain ⟨c, hc, hsep⟩ := List.mem_map.mp hmem
  have hdigit := digit_of_mem hc
  have htoNat : c.toNat % 256 = 58 := by
    rw [← UInt8.toNat_ofNat', hsep]
    rfl
  omega

/-! ## The text and its code -/

/-- `fmt.Sprintf("%s:%s:%d", droneUUID, nonceHex, timestamp)`. -/
def hmacMessage (droneUUID nonce : List UInt8) (timestamp : UInt64) : List UInt8 :=
  droneUUID ++ separator :: (encodeToString nonce ++ separator :: formatDecimal timestamp)

theorem hmacMessage_inj {u u' n n' : List UInt8} {t t' : UInt64}
    (h : hmacMessage u n t = hmacMessage u' n' t') : u = u' ∧ n = n' ∧ t = t' := by
  rw [hmacMessage, hmacMessage, ← List.cons_append, ← List.cons_append, ← List.append_assoc,
    ← List.append_assoc] at h
  obtain ⟨hfront, htime⟩ := append_cons_inj (separator_notMem_formatDecimal t)
    (separator_notMem_formatDecimal t') h
  obtain ⟨huuid, hnonce⟩ := append_cons_inj (separator_notMem_encodeToString n)
    (separator_notMem_encodeToString n') hfront
  exact ⟨huuid, encodeToString_inj hnonce, formatDecimal_inj htime⟩

section Answers

variable (hmacSHA256 : List UInt8 → List UInt8 → List UInt8) (sha256 : List UInt8 → List UInt8)

def computeHMAC (secret droneUUID nonce : List UInt8) (timestamp : UInt64) : List UInt8 :=
  hmacSHA256 secret (hmacMessage droneUUID nonce timestamp)

def verifyHMAC (secret droneUUID nonce : List UInt8) (timestamp : UInt64)
    (signature : List UInt8) : Bool :=
  computeHMAC hmacSHA256 secret droneUUID nonce timestamp = signature

def computeCombinedKey (sharedKey privateKey : List UInt8) : List UInt8 :=
  encodeToString (sha256 (sharedKey ++ privateKey))

def authKey (sharedSecret secret : List UInt8) : List UInt8 :=
  if sharedSecret ≠ [] then computeCombinedKey sha256 sharedSecret secret else secret

def authResponse (sharedSecret secret droneUUID : List UInt8) (challenge : AuthChallenge)
    (timestamp : UInt64) (ip : List UInt8) : AuthResponse where
  droneUUID := droneUUID
  hmac := computeHMAC hmacSHA256 (authKey sha256 sharedSecret secret) droneUUID challenge.nonce
    timestamp
  timestamp := timestamp
  ip := ip

/-- What `Register` answers to a challenge. -/
def registerResponse (sharedSecret droneUUID : List UInt8) (challenge : RegisterChallenge)
    (timestamp : UInt64) : RegisterResponse where
  droneUUID := droneUUID
  hmac := computeHMAC hmacSHA256 sharedSecret droneUUID challenge.nonce timestamp
  timestamp := timestamp

/-- Two different texts with one code. -/
def Collide (secret x y : List UInt8) : Prop := x ≠ y ∧ hmacSHA256 secret x = hmacSHA256 secret y

/-- A code that is good for another triple is a collision of the two texts. -/
theorem verifyHMAC_computeHMAC {secret u u' n n' : List UInt8} {t t' : UInt64}
    (h : verifyHMAC hmacSHA256 secret u' n' t' (computeHMAC hmacSHA256 secret u n t) = true) :
    (u = u' ∧ n = n' ∧ t = t') ∨
      Collide hmacSHA256 secret (hmacMessage u n t) (hmacMessage u' n' t') := by
  have hcode := of_decide_eq_true h
  by_cases htext : hmacMessage u n t = hmacMessage u' n' t'
  · exact .inl (hmacMessage_inj htext)
  · exact .inr ⟨htext, hcode.symm⟩

end Answers

/-- **The authenticated text.** Two texts are equal exactly when they have the same uuid, nonce and
timestamp. -/
theorem hmacMessage_eq_iff :
    (∀ (u u' n n' : List UInt8) (t t' : UInt64),
      hmacMessage u n t = hmacMessage u' n' t' ↔ u = u' ∧ n = n' ∧ t = t') ∧
    ∀ (hmacSHA256 : List UInt8 → List UInt8 → List UInt8) (sha256 : List UInt8 → List UInt8)
      (sharedSecret secret u u' n' : List UInt8) (t t' : UInt64),
      (∀ (challenge : AuthChallenge) (ip : List UInt8),
        verifyHMAC hmacSHA256 (authKey sha256 sharedSecret secret) u' n' t'
          (authResponse hmacSHA256 sha256 sharedSecret secret u challenge t ip).hmac = true →
        (u = u' ∧ challenge.nonce = n' ∧ t = t') ∨
          Collide hmacSHA256 (authKey sha256 sharedSecret secret)
            (hmacMessage u challenge.nonce t) (hmacMessage u' n' t')) ∧
      (∀ challenge : RegisterChallenge,
        verifyHMAC hmacSHA256 sharedSecret u' n' t'
          (registerResponse hmacSHA256 sharedSecret u challenge t).hmac = true →
        (u = u' ∧ challenge.nonce = n' ∧ t = t') ∨
          Collide hmacSHA256 sharedSecret (hmacMessage u challenge.nonce t)
            (hmacMessage u' n' t')) := by
  refine ⟨fun u u' n n' t t' ↦ ⟨hmacMessage_inj, ?_⟩, fun hmac sha shared secret u u' n' t t' ↦
    ⟨fun challenge ip h ↦ ?_, fun challenge h ↦ ?_⟩⟩
  · rintro ⟨rfl, rfl, rfl⟩
    rfl
  · exact verifyHMAC_computeHMAC hmac h
  · exact verifyHMAC_computeHMAC hmac h

/-- The uuid `a:ff` without a nonce is not the uuid `a` with the nonce `ff`. -/
theorem hmacMessage_eq_iff_colon :
    hmacMessage [0x61, 0x3a, 0x66, 0x66] [] 0 ≠ hmacMessage [0x61] [0xff] 0 := by
  intro h
  have huuid := ((hmacMessage_eq_iff.1 _ _ _ _ _ _).mp h).1
  exact absurd huuid (by decide)

end DroneBridge
