import DroneBridge.Auth.Delivery

/-!
# The API key replies

Two parsers of `auth/protocol.go` guess what they have in front of them.

An `API_KEY_RESPONSE` comes in an old format, with the type first, and in a new one, behind a 16-bit
length. The parser looks at the third byte: where it is the message type, the packet is taken for
the new format. In the old format the third byte is the error code, so one error code is misread.

An `API_KEY_STATUS_RESP` ends with optional fields. Each is read when enough bytes are left for it,
from where the last field that was read has ended. In a packet that was cut inside a field, the
fields behind it are therefore looked for inside the cut field.
-/

namespace DroneBridge

/-! ## Two formats -/

/-- The new format. A length above 65535 is sent as its lowest 16 bits. -/
def APIKeyResponse.encWithLength (m : APIKeyResponse) : List UInt8 :=
  leBytes 2 m.enc.length ++ m.enc

/-- Behind the type byte the fields are read from any offset. -/
theorem readAPIKeyResponse_enc {m : APIKeyResponse} (hm : m.Valid) (pre rest : List UInt8) :
    ((readAPIKeyResponse (pre ++ m.enc ++ rest) pre.length).map Prod.fst) = .ok m := by
  obtain ⟨tail, htail⟩ : ∃ tail, m.enc = msgAPIKeyResponse :: tail := ⟨_, rfl⟩
  have hread := readAPIKeyResponse_append pre (tail ++ rest)
  have hfields := (reads_apiKeyFields.ok_iff (pre ++ [msgAPIKeyResponse]) (tail ++ rest) m _
    trivial).mpr ⟨tail, ⟨hm, htail⟩, List.prefix_append _ _, rfl⟩
  rw [htail, List.append_assoc, List.cons_append, hread, hfields]
  rfl

/-- What is read behind the type byte is as long as the message. -/
theorem length_enc_le_of_read {m : APIKeyResponse} (pre : List UInt8) {t : List UInt8}
    (h : (readAPIKeyResponse (pre ++ msgAPIKeyResponse :: t) pre.length).map Prod.fst = .ok m) :
    m.enc.length ≤ t.length + 1 := by
  obtain ⟨⟨m', offset⟩, hread, rfl⟩ := Outcome.map_eq_ok.mp h
  rw [readAPIKeyResponse_append] at hread
  obtain ⟨bs, ⟨-, henc⟩, hpre, -⟩ := (reads_apiKeyFields.ok_iff _ t m' offset trivial).mp hread
  rw [henc, List.length_cons]
  exact Nat.succ_le_succ hpre.length_le

/-- With the type as its third byte, a packet is read from there or not at all. -/
theorem parseAPIKeyResponse_third {m : APIKeyResponse} {b b' : UInt8} {t : List UInt8}
    (h : parseAPIKeyResponse (b :: b' :: msgAPIKeyResponse :: t) = .ok m) :
    (readAPIKeyResponse (b :: b' :: msgAPIKeyResponse :: t) 2).map Prod.fst = .ok m := by
  rw [parseAPIKeyResponse] at h
  dsimp only at h
  rw [if_pos ⟨by simp, rfl⟩] at h
  split at h
  · cases h
  · exact h

theorem parseAPIKeyResponse_enc {m : APIKeyResponse} (hm : m.Valid)
    (hcode : m.errorCode ≠ msgAPIKeyResponse) : parseAPIKeyResponse m.enc = .ok m :=
  Outcome.value?_eq_some.mp
    ((parseAPIKeyResponse_plain_iff hm hcode (List.prefix_refl _)).mpr (Nat.le_refl _))

theorem parseAPIKeyResponse_encWithLength {m : APIKeyResponse} (hm : m.Valid)
    (rest : List UInt8) : parseAPIKeyResponse (m.encWithLength ++ rest) = .ok m := by
  obtain ⟨tail, htail⟩ : ∃ tail, m.enc = msgAPIKeyResponse :: tail := ⟨_, rfl⟩
  -- The length may have lost its high bits, and then it asks for less than there is.
  have hlow : m.enc.length % 256 ^ 2 ≤ 65535 := by omega
  have hparse := parseAPIKeyResponse_withLength hlow (tail ++ rest)
  have hfits : ¬ (tail ++ rest).length + 1 < m.enc.length % 256 ^ 2 := by
    have hlen : m.enc.length = tail.length + 1 := by rw [htail, List.length_cons]
    have hle := Nat.mod_le m.enc.length (256 ^ 2)
    rw [List.length_append]
    omega
  rw [if_neg hfits, leBytes_mod] at hparse
  have hread := readAPIKeyResponse_enc hm (leBytes 2 m.enc.length) rest
  have hdata (pre : List UInt8) :
      pre ++ m.enc ++ rest = pre ++ msgAPIKeyResponse :: (tail ++ rest) := by
    rw [htail, List.append_assoc, List.cons_append]
  rw [← hdata, ← Outcome.value?_map] at hparse
  rw [length_leBytes] at hread
  rw [APIKeyResponse.encWithLength, ← Outcome.value?_eq_some, hparse, hread]
  rfl

/-- **Two formats.** An `API_KEY_RESPONSE` is read back from both formats, the new one with any
bytes behind it, if and only if its error code is not the message type. -/
theorem apiKeyResponse_formats_iff {m : APIKeyResponse} (hm : m.Valid) :
    (parseAPIKeyResponse m.enc = .ok m ∧
        ∀ rest, parseAPIKeyResponse (m.encWithLength ++ rest) = .ok m) ↔
      m.errorCode ≠ msgAPIKeyResponse := by
  constructor
  · rintro ⟨hold, -⟩ hcode
    -- Read from its third byte on, the packet is too short by two for the message.
    obtain ⟨tail, htail⟩ : ∃ tail, m.enc = msgAPIKeyResponse :: m.result :: m.errorCode :: tail :=
      ⟨_, rfl⟩
    rw [htail, hcode] at hold
    have hlen := length_enc_le_of_read [msgAPIKeyResponse, m.result]
      (parseAPIKeyResponse_third hold)
    rw [htail, List.length_cons, List.length_cons, List.length_cons] at hlen
    omega
  · intro hcode
    exact ⟨parseAPIKeyResponse_enc hm hcode, parseAPIKeyResponse_encWithLength hm⟩

/-- A refused request, with the error code for a key that is already there. -/
theorem apiKeyResponse_formats_refused :
    APIKeyResponse.Valid ⟨0x01, 0x01, [], 0⟩ ∧
      parseAPIKeyResponse [0x21, 0x01, 0x01] = .ok ⟨0x01, 0x01, [], 0⟩ ∧
      parseAPIKeyResponse ([0x03, 0x00, 0x21, 0x01, 0x01] ++ [0xff]) =
        .ok ⟨0x01, 0x01, [], 0⟩ := by
  have hvalid : APIKeyResponse.Valid ⟨0x01, 0x01, [], 0⟩ := ⟨by decide, fun _ ↦ ⟨rfl, rfl⟩⟩
  obtain ⟨hold, hnew⟩ := (apiKeyResponse_formats_iff hvalid).mpr (by decide)
  exact ⟨hvalid, hold, hnew [0xff]⟩

/-- With the message type as error code, a refusal is an error of the parser, and a granted key of
32 bytes is read as a refusal whose result is the length of the key. -/
theorem apiKeyResponse_code_misread :
    (APIKeyResponse.Valid ⟨0x01, 0x21, [], 0⟩ ∧
      (parseAPIKeyResponse (APIKeyResponse.enc ⟨0x01, 0x21, [], 0⟩)).value? = none) ∧
    (APIKeyResponse.Valid ⟨0x00, 0x21, List.replicate 32 0x61, 1⟩ ∧
      parseAPIKeyResponse (APIKeyResponse.enc ⟨0x00, 0x21, List.replicate 32 0x61, 1⟩) =
        .ok ⟨0x20, 0x00, [], 0⟩) := by
  refine ⟨⟨⟨by decide, fun _ ↦ ⟨rfl, rfl⟩⟩, by decide⟩, ⟨by decide, fun h ↦ absurd rfl h⟩, ?_⟩
  decide

/-! ## Fields of a cut packet -/

/-- Each optional field has the value that was sent, or none. -/
structure APIKeyStatusResponse.FieldsKept (m sent : APIKeyStatusResponse) : Prop where
  createdAt : m.createdAt = sent.createdAt ∨ m.createdAt = 0
  expiresAt : m.expiresAt = sent.expiresAt ∨ m.expiresAt = 0
  userUUID : m.userUUID = sent.userUUID ∨ m.userUUID = []
  userActivatedAt : m.userActivatedAt = sent.userActivatedAt ∨ m.userActivatedAt = 0

/-- The first `n` bytes of the number do not begin with a string other than the empty one and
`user`. -/
def NoStringIn (x : UInt64) (n : ℕ) (user : List UInt8) : Prop :=
  ∀ s, s ≠ [] → putString16 s <+: (leBytes 8 x.toNat).take n → s = user

/-- A cut in one of the first two numbers leaves no string in it, and a cut behind eight or more
bytes of the user leaves a number there that is zero or the one that was sent. -/
structure APIKeyStatusResponse.CutClean (sent : APIKeyStatusResponse) (n : ℕ) : Prop where
  createdAt : n < 8 → NoStringIn sent.createdAt n sent.userUUID
  expiresAt : 8 ≤ n → n < 16 → NoStringIn sent.expiresAt (n - 8) sent.userUUID
  userUUID : 26 ≤ n → n < 18 + sent.userUUID.length →
    UInt64.ofNat (leValue (sent.userUUID.take 8)) = sent.userActivatedAt ∨
      UInt64.ofNat (leValue (sent.userUUID.take 8)) = 0

theorem noStringIn_iff {x : UInt64} {t user : List UInt8} (ht : t <+: leBytes 8 x.toNat) :
    NoStringIn x t.length user ↔ (peelString16 t).1 = user ∨ (peelString16 t).1 = [] := by
  have htake : (leBytes 8 x.toNat).take t.length = t := (List.prefix_iff_eq_take.mp ht).symm
  rw [NoStringIn, htake]
  constructor
  · intro hnone
    by_cases hempty : (peelString16 t).1 = []
    · exact .inr hempty
    · exact .inl (hnone _ hempty ((peelString16_fst_eq_iff hempty).mp rfl).2)
  · intro huser s hs hpre
    have hlen : s.length ≤ 65535 := by
      have hle := (hpre.trans ht).length_le
      rw [putString16, List.length_append, length_leBytes, length_leBytes] at hle
      omega
    have hread := (peelString16_fst_eq_iff hs).mpr ⟨hlen, hpre⟩
    rw [hread] at huser
    exact huser.resolve_right hs

section

variable {sent : APIKeyStatusResponse} {t : List UInt8}

theorem encode_details (hkey : sent.hasActiveKey = 0x01) :
    OptionalField.encode sent.details =
      leBytes 8 sent.createdAt.toNat ++ (leBytes 8 sent.expiresAt.toNat ++
        (putString16 sent.userUUID ++ leBytes 8 sent.userActivatedAt.toNat)) := by
  rw [APIKeyStatusResponse.details, if_pos hkey]
  simp [OptionalField.encode, OptionalField.u64, OptionalField.string16]

theorem peelU64_leBytes (x : UInt64) (rem : List UInt8) :
    peelU64 (leBytes 8 x.toNat ++ rem) = (x, rem) := by
  rw [peelU64, peel_append (length_leBytes 8 _), leValue_leBytes x.toNat_lt, UInt64.ofNat_toNat]

theorem peelU64_of_lt (h : t.length < 8) : peelU64 t = (0, t) := peel_of_lt h

/-- A string and a number read from too few bytes for the number. -/
theorem peelU64_peelString16_of_lt (h : t.length < 8) : (peelU64 (peelString16 t).2).1 = 0 := by
  rw [peelU64_of_lt (Nat.lt_of_le_of_lt (length_peelString16_snd_le t) h)]

/-- What is read from the optional fields of `sent`, cut to `t`. -/
def APIKeyStatusResponse.readCut (sent : APIKeyStatusResponse) (t : List UInt8) :
    APIKeyStatusResponse :=
  (peelActiveKey sent.hasActiveKey sent.status sent.apiKey t).1

theorem fieldsKept_of_cut_createdAt (ht : t <+: leBytes 8 sent.createdAt.toNat)
    (hlt : t.length < 8) : (sent.readCut t).FieldsKept sent ↔ sent.CutClean t.length := by
  have hread : sent.readCut t = ⟨sent.hasActiveKey, sent.status, sent.apiKey, 0, 0,
      (peelString16 t).1, 0⟩ := by
    rw [APIKeyStatusResponse.readCut, peelActiveKey]
    dsimp only
    rw [peelU64_of_lt hlt, peelU64_of_lt hlt, peelU64_peelString16_of_lt hlt]
  rw [hread]
  constructor
  · intro hkept
    exact ⟨fun _ ↦ (noStringIn_iff ht).mpr hkept.userUUID, fun hge ↦ absurd hlt (by omega),
      fun hge ↦ absurd hlt (by omega)⟩
  · intro hclean
    exact ⟨.inr rfl, .inr rfl, (noStringIn_iff ht).mp (hclean.createdAt hlt), .inr rfl⟩

theorem fieldsKept_of_cut_expiresAt (ht : t <+: leBytes 8 sent.expiresAt.toNat)
    (hlt : t.length < 8) :
    (sent.readCut (leBytes 8 sent.createdAt.toNat ++ t)).FieldsKept sent ↔
      sent.CutClean (8 + t.length) := by
  have hread : sent.readCut (leBytes 8 sent.createdAt.toNat ++ t) =
      ⟨sent.hasActiveKey, sent.status, sent.apiKey, sent.createdAt, 0, (peelString16 t).1, 0⟩ := by
    rw [APIKeyStatusResponse.readCut, peelActiveKey]
    dsimp only
    rw [peelU64_leBytes, peelU64_of_lt hlt, peelU64_peelString16_of_lt hlt]
  have hlen : 8 + t.length - 8 = t.length := Nat.add_sub_cancel_left 8 _
  rw [hread]
  constructor
  · intro hkept
    refine ⟨fun hlt' ↦ absurd hlt' (by omega), fun _ _ ↦ ?_, fun hge ↦ absurd hlt (by omega)⟩
    rw [hlen]
    exact (noStringIn_iff ht).mpr hkept.userUUID
  · intro hclean
    have hnone := hclean.expiresAt (Nat.le_add_right 8 _) (by omega)
    rw [hlen] at hnone
    exact ⟨.inl rfl, .inr rfl, (noStringIn_iff ht).mp hnone, .inr rfl⟩

theorem readCut_numbers (sent : APIKeyStatusResponse) (t : List UInt8) :
    sent.readCut (leBytes 8 sent.createdAt.toNat ++ (leBytes 8 sent.expiresAt.toNat ++ t)) =
      ⟨sent.hasActiveKey, sent.status, sent.apiKey, sent.createdAt, sent.expiresAt,
        (peelString16 t).1, (peelU64 (peelString16 t).2).1⟩ := by
  rw [APIKeyStatusResponse.readCut, peelActiveKey]
  dsimp only
  rw [peelU64_leBytes, peelU64_leBytes]

/-- The cut is in the length of the user or behind the user: nothing is misread. -/
theorem fieldsKept_of_user (huser : (peelString16 t).1 = sent.userUUID ∨ (peelString16 t).1 = [])
    (hnumber : (peelU64 (peelString16 t).2).1 = sent.userActivatedAt ∨
      (peelU64 (peelString16 t).2).1 = 0) :
    (sent.readCut (leBytes 8 sent.createdAt.toNat ++
      (leBytes 8 sent.expiresAt.toNat ++ t))).FieldsKept sent := by
  rw [readCut_numbers]
  exact ⟨.inl rfl, .inl rfl, huser, hnumber⟩

/-- The cut is in the user, behind its length: the number is looked for in the user. -/
theorem fieldsKept_of_cut_user (hvalid : sent.userUUID.length ≤ 65535)
    (ht : t <+: sent.userUUID) (hlt : t.length < sent.userUUID.length) :
    (sent.readCut (leBytes 8 sent.createdAt.toNat ++ (leBytes 8 sent.expiresAt.toNat ++
      (leBytes 2 sent.userUUID.length ++ t)))).FieldsKept sent ↔
      sent.CutClean (18 + t.length) := by
  have hpeel : peelString16 (leBytes 2 sent.userUUID.length ++ t) = ([], t) := by
    rw [peelString16_length_append hvalid, peel_of_lt hlt]
  rw [readCut_numbers, hpeel]
  by_cases hfew : t.length < 8
  · -- Too few bytes for a number.
    refine iff_of_true ⟨.inl rfl, .inl rfl, .inr rfl, .inr ?_⟩
      ⟨fun hlt' ↦ absurd hlt' (by omega), fun _ hlt' ↦ absurd hlt' (by omega),
        fun hge ↦ absurd hge (by omega)⟩
    rw [peelU64_of_lt hfew]
  · have htake : t.take 8 = sent.userUUID.take 8 := by
      obtain ⟨rest, hrest⟩ := ht
      rw [← hrest, List.take_append_of_le_length (Nat.not_lt.mp hfew)]
    have hnumber : (peelU64 t).1 = UInt64.ofNat (leValue (sent.userUUID.take 8)) := by
      rw [peelU64, peel, if_neg hfew, htake]
    constructor
    · intro hkept
      have huser := hkept.userActivatedAt
      dsimp only at huser
      rw [hnumber] at huser
      exact ⟨fun hlt' ↦ absurd hlt' (by omega), fun _ hlt' ↦ absurd hlt' (by omega),
        fun _ _ ↦ huser⟩
    · intro hclean
      have huser := hclean.userUUID (by omega) (by omega)
      rw [← hnumber] at huser
      exact ⟨.inl rfl, .inl rfl, .inr rfl, huser⟩

/-- A cut that is not before the user leaves nothing to check in the numbers. -/
theorem cutClean_of_le {n : ℕ} (hge : 16 ≤ n)
    (huser : 26 ≤ n → ¬ n < 18 + sent.userUUID.length) : sent.CutClean n :=
  ⟨fun hlt ↦ absurd hlt (by omega), fun _ hlt ↦ absurd hlt (by omega),
    fun hmany hlt ↦ absurd hlt (huser hmany)⟩

theorem fieldsKept_of_numbers (hvalid : sent.userUUID.length ≤ 65535)
    (ht : t <+: putString16 sent.userUUID ++ leBytes 8 sent.userActivatedAt.toNat) :
    (sent.readCut (leBytes 8 sent.createdAt.toNat ++
      (leBytes 8 sent.expiresAt.toNat ++ t))).FieldsKept sent ↔ sent.CutClean (16 + t.length) := by
  rw [putString16, List.append_assoc] at ht
  rcases prefix_append_cases ht with ⟨t₁, rfl, ht₁⟩ | ⟨-, hlt⟩
  · rw [List.length_append, length_leBytes, ← Nat.add_assoc]
    rcases prefix_append_cases ht₁ with ⟨t₂, rfl, ht₂⟩ | ⟨ht₂, hlt⟩
    · -- The user is complete.
      have hpeel : peelString16 (leBytes 2 sent.userUUID.length ++ (sent.userUUID ++ t₂)) =
          (sent.userUUID, t₂) := by
        rw [peelString16_length_append hvalid, peel_append rfl, id]
      have hnumber : (peelU64 t₂).1 = sent.userActivatedAt ∨ (peelU64 t₂).1 = 0 := by
        by_cases hfew : t₂.length < 8
        · exact .inr (by rw [peelU64_of_lt hfew])
        · have hwhole : t₂ = leBytes 8 sent.userActivatedAt.toNat :=
            ht₂.eq_of_length_le (by rw [length_leBytes]; omega)
          have hread := peelU64_leBytes sent.userActivatedAt []
          rw [List.append_nil, ← hwhole] at hread
          exact .inl (by rw [hread])
      refine iff_of_true (fieldsKept_of_user ?_ ?_) (cutClean_of_le (by omega) fun _ ↦ ?_)
      · exact .inl (by rw [hpeel])
      · rwa [hpeel]
      · rw [List.length_append]
        omega
    · exact fieldsKept_of_cut_user hvalid ht₂ hlt
  · -- The length of the user is not complete.
    rw [length_leBytes] at hlt
    have hpeel : peelString16 t = ([], t) := by rw [peelString16, if_pos hlt]
    refine iff_of_true (fieldsKept_of_user ?_ ?_)
      (cutClean_of_le (Nat.le_add_right 16 _) fun hmany ↦ absurd hmany (by omega))
    · exact .inr (by rw [hpeel])
    · have hfew : t.length < 8 := by omega
      exact .inr (by rw [hpeel, peelU64_of_lt hfew])

theorem fieldsKept_iff (hvalid : sent.userUUID.length ≤ 65535) (hkey : sent.hasActiveKey = 0x01)
    (ht : t <+: OptionalField.encode sent.details) :
    (sent.readCut t).FieldsKept sent ↔ sent.CutClean t.length := by
  rw [encode_details hkey] at ht
  rcases prefix_append_cases ht with ⟨t₁, rfl, ht₁⟩ | ⟨ht, hlt⟩
  · rw [List.length_append, length_leBytes]
    rcases prefix_append_cases ht₁ with ⟨t₂, rfl, ht₂⟩ | ⟨ht₁, hlt⟩
    · rw [List.length_append, length_leBytes, ← Nat.add_assoc]
      exact fieldsKept_of_numbers hvalid ht₂
    · exact fieldsKept_of_cut_expiresAt ht₁ (length_leBytes 8 _ ▸ hlt)
  · exact fieldsKept_of_cut_createdAt ht (length_leBytes 8 _ ▸ hlt)

/-- A cut packet is accepted when its head is complete, and then read field by field. -/
theorem parseAPIKeyStatusResponse_cut {m : APIKeyStatusResponse} {d : List UInt8}
    (hsent : sent.Valid) (hkey : sent.hasActiveKey = 0x01)
    (hd : d <+: sent.encHead ++ OptionalField.encode sent.details)
    (hparse : parseAPIKeyStatusResponse d = .ok m) :
    ∃ t, d = sent.encHead ++ t ∧ t <+: OptionalField.encode sent.details ∧
      m = sent.readCut t := by
  rcases prefix_append_cases hd with ⟨t, rfl, ht⟩ | ⟨hpre, hlt⟩
  · refine ⟨t, rfl, ht, ?_⟩
    have hok := (reads_statusHead.ok_iff [] (sent.encHead ++ t)
      (sent.hasActiveKey, sent.status, sent.apiKey) _ trivial).mpr
        ⟨sent.encHead, ⟨hsent.status, hsent.apiKey, rfl⟩, List.prefix_append _ _, rfl⟩
    obtain ⟨offset, hread⟩ := (peels_readActiveKey sent.hasActiveKey sent.status sent.apiKey).ok
      sent.encHead t
    rw [List.nil_append, List.length_nil, Nat.zero_add] at hok
    rw [parseAPIKeyStatusResponse, Reader.parse, readAPIKeyStatusResponse, Reader.bind_apply,
      hok] at hparse
    dsimp only at hparse
    rw [if_pos hkey, hread] at hparse
    exact (Outcome.ok.inj hparse).symm
  · have hne : d ≠ sent.encHead := by
      rintro rfl
      exact Nat.lt_irrefl _ hlt
    have hnone := reads_statusHead.value?_eq_none
      (a := (sent.hasActiveKey, sent.status, sent.apiKey)) ⟨hsent.status, hsent.apiKey, rfl⟩
      hpre hne []
    have hvalue : (parseAPIKeyStatusResponse d).value? = none := by
      rw [parseAPIKeyStatusResponse, Reader.value?_parse, readAPIKeyStatusResponse]
      exact congrArg (Option.map Prod.fst) (Reader.bind_eq_none hnone)
    rw [hparse] at hvalue
    cases hvalue

end

/-- **Cut packets.** Where the parser accepts a packet that was cut, each optional field has its
value or none if and only if the cut is clean. -/
theorem status_fields_kept_iff {sent m : APIKeyStatusResponse} {d : List UInt8}
    (hsent : sent.Valid) (hkey : sent.hasActiveKey = 0x01)
    (hd : d <+: sent.encHead ++ OptionalField.encode sent.details)
    (hparse : parseAPIKeyStatusResponse d = .ok m) :
    m.FieldsKept sent ↔ sent.CutClean (d.length - sent.encHead.length) := by
  obtain ⟨t, rfl, ht, rfl⟩ := parseAPIKeyStatusResponse_cut hsent hkey hd hparse
  rw [List.length_append, Nat.add_sub_cancel_left]
  exact fieldsKept_iff hsent.userUUID hkey ht

/-- A key that was created at 1699938305, that is `01 00 53 65` and four zero bytes. -/
def statusSent : APIKeyStatusResponse :=
  ⟨0x01, [0x6f, 0x6b], [0x6b], 1699938305, 1702530305, [0x75], 0⟩

theorem statusSent_valid : statusSent.Valid :=
  ⟨by decide, by decide, by decide, fun h ↦ absurd rfl h⟩

/-- Cut behind the first number, all there is is read. -/
theorem status_fields_kept_created :
    parseAPIKeyStatusResponse
        [0x25, 0x01, 0x02, 0x00, 0x6f, 0x6b, 0x01, 0x00, 0x6b, 0x01, 0x00, 0x53, 0x65, 0, 0, 0, 0] =
      .ok ⟨0x01, [0x6f, 0x6b], [0x6b], 1699938305, 0, [], 0⟩ ∧
    APIKeyStatusResponse.FieldsKept ⟨0x01, [0x6f, 0x6b], [0x6b], 1699938305, 0, [], 0⟩
      statusSent := by
  have hparse : parseAPIKeyStatusResponse
      [0x25, 0x01, 0x02, 0x00, 0x6f, 0x6b, 0x01, 0x00, 0x6b, 0x01, 0x00, 0x53, 0x65, 0, 0, 0, 0] =
      .ok ⟨0x01, [0x6f, 0x6b], [0x6b], 1699938305, 0, [], 0⟩ := by decide
  refine ⟨hparse, (status_fields_kept_iff statusSent_valid rfl (by decide) hparse).mpr ?_⟩
  refine ⟨fun h ↦ absurd h (by decide), fun _ _ s _ hpre ↦ ?_, fun h ↦ absurd h (by decide)⟩
  have hle := hpre.length_le
  simp [putString16, statusSent, APIKeyStatusResponse.encHead] at hle

/-- Cut in the first number, four bytes behind its start, two bytes of it are read as the length of
the user and a third one as the user. -/
theorem status_cut_misread :
    [0x25, 0x01, 0x02, 0x00, 0x6f, 0x6b, 0x01, 0x00, 0x6b, 0x01, 0x00, 0x53, 0x65] <+:
        statusSent.encHead ++ OptionalField.encode statusSent.details ∧
      parseAPIKeyStatusResponse
          [0x25, 0x01, 0x02, 0x00, 0x6f, 0x6b, 0x01, 0x00, 0x6b, 0x01, 0x00, 0x53, 0x65] =
        .ok ⟨0x01, [0x6f, 0x6b], [0x6b], 0, 0, [0x53], 0⟩ ∧
      statusSent.userUUID = [0x75] := by
  refine ⟨by decide, by decide, rfl⟩

end DroneBridge
