import DroneBridge.Auth.Layout

/-!
# One read for one reply

The client waits for a reply with a single `Read` into a buffer of 4096 bytes and hands what it got
to the parser. The stream underneath may deliver a reply in several pieces, and then the parser sees
the first piece only.

What the parser makes of a piece depends on the message. Where a field is mandatory a missing tail
is an error. The error code of a failure, its waiting time and the details of an active key are
optional: when they are missing they count as zero or empty, and the message is accepted with values
the server did not send. So the reply is decoded as if it had come in one piece exactly when the
first piece has all mandatory fields, and each optional field that is not complete in it has its
default value anyway.
-/

namespace DroneBridge

/-! ## Replies -/

/-- The replies the client waits for on the authentication connection. -/
inductive ReplyKind
  | authChallenge
  | authAck
  | sessionAck
  | sessionRefreshAck
  | apiKeyResponse
  | apiKeyRevokeAck
  | apiKeyStatusResp
  | apiKeyDeleteAck
  | vpnProvisionAck
  deriving DecidableEq, Repr

inductive ServerMessage
  | authChallenge (m : AuthChallenge)
  | authAck (m : AuthAck)
  | sessionAck (m : SessionAck)
  | sessionRefreshAck (m : SessionRefreshAck)
  | apiKeyResponse (m : APIKeyResponse)
  | apiKeyRevokeAck (m : APIKeyRevokeAck)
  | apiKeyStatusResp (m : APIKeyStatusResponse)
  | apiKeyDeleteAck (m : APIKeyDeleteAck)
  | vpnProvisionAck (m : VPNProvisionAck)
  deriving DecidableEq, Repr

def ServerMessage.kind : ServerMessage → ReplyKind
  | .authChallenge _ => .authChallenge
  | .authAck _ => .authAck
  | .sessionAck _ => .sessionAck
  | .sessionRefreshAck _ => .sessionRefreshAck
  | .apiKeyResponse _ => .apiKeyResponse
  | .apiKeyRevokeAck _ => .apiKeyRevokeAck
  | .apiKeyStatusResp _ => .apiKeyStatusResp
  | .apiKeyDeleteAck _ => .apiKeyDeleteAck
  | .vpnProvisionAck _ => .vpnProvisionAck

/-- The parser for the reply the client waits for; `none` is an error. -/
def ReplyKind.decode (kind : ReplyKind) (data : List UInt8) : Option ServerMessage :=
  match kind with
  | .authChallenge => (parseAuthChallenge data).value?.map .authChallenge
  | .authAck => (parseAuthAck data).value?.map .authAck
  | .sessionAck => (parseSessionAck data).value?.map .sessionAck
  | .sessionRefreshAck => (parseSessionRefreshAck data).value?.map .sessionRefreshAck
  | .apiKeyResponse => (parseAPIKeyResponse data).value?.map .apiKeyResponse
  | .apiKeyRevokeAck => (parseAPIKeyRevokeAck data).value?.map .apiKeyRevokeAck
  | .apiKeyStatusResp => (parseAPIKeyStatusResponse data).value?.map .apiKeyStatusResp
  | .apiKeyDeleteAck => (parseAPIKeyDeleteAck data).value?.map .apiKeyDeleteAck
  | .vpnProvisionAck => (parseVPNProvisionAck data).value?.map .vpnProvisionAck

def readBufferSize : ℕ := 4096

/-- `n, err := conn.Read(buf)` and the parser on `buf[:n]`. -/
def ReplyKind.receive (kind : ReplyKind) (pieces : List (List UInt8)) : Option ServerMessage :=
  kind.decode ((pieces.headD []).take readBufferSize)

/-! ## What the server sends -/

/-- `[TYPE:1][RESULT:1][ERROR_CODE:1]`, and on success `[KEY_LEN:2][KEY:var][EXPIRES_AT:8]` -/
def APIKeyResponse.enc (m : APIKeyResponse) : List UInt8 :=
  msgAPIKeyResponse :: m.result :: m.errorCode ::
    if m.result = 0x00 then putString16 m.apiKey ++ leBytes 8 m.expiresAt.toNat else []

structure APIKeyResponse.Valid (m : APIKeyResponse) : Prop where
  apiKey : m.apiKey.length ≤ 65535
  failed : m.result ≠ 0x00 → m.apiKey = [] ∧ m.expiresAt = 0

/-- `[TYPE:1][RESULT:1]` -/
def APIKeyRevokeAck.enc (_ : APIKeyRevokeAck) : List UInt8 := [msgAPIKeyRevokeAck, resultSuccess]

/-- `[TYPE:1][HAS_KEY:1][STATUS_LEN:2][STATUS:var][API_KEY_LEN:2][API_KEY:var]` -/
def APIKeyStatusResponse.encHead (m : APIKeyStatusResponse) : List UInt8 :=
  msgAPIKeyStatusResp :: m.hasActiveKey :: (putString16 m.status ++ putString16 m.apiKey)

/-- With an active key, `[CREATED_AT:8][EXPIRES_AT:8][USER_LEN:2][USER:var][ACTIVATED_AT:8]` -/
def APIKeyStatusResponse.details (m : APIKeyStatusResponse) : List OptionalField :=
  if m.hasActiveKey = 0x01 then
    [.u64 m.createdAt, .u64 m.expiresAt, .string16 m.userUUID, .u64 m.userActivatedAt]
  else []

structure APIKeyStatusResponse.Valid (m : APIKeyStatusResponse) : Prop where
  status : m.status.length ≤ 65535
  apiKey : m.apiKey.length ≤ 65535
  userUUID : m.userUUID.length ≤ 65535
  noKey : m.hasActiveKey ≠ 0x01 →
    m.createdAt = 0 ∧ m.expiresAt = 0 ∧ m.userUUID = [] ∧ m.userActivatedAt = 0

/-- A message as the server sends it. An `API_KEY_RESPONSE` has two formats, one of them behind its
length. Of the optional fields of a message, the first `sent` are on the wire. -/
structure Reply where
  message : ServerMessage
  withLength : Bool
  sent : ℕ
  deriving DecidableEq, Repr

/-- The mandatory fields of a failure, or the whole of a success. -/
def ackMandatory (type result : UInt8) (enc : List UInt8) : List UInt8 :=
  if result = resultSuccess then enc else [type, result]

def ackOptional (result : UInt8) (fields : List OptionalField) : List OptionalField :=
  if result = resultSuccess then [] else fields

def Reply.mandatory (r : Reply) : List UInt8 :=
  match r.message with
  | .authChallenge m => m.enc
  | .authAck m => ackMandatory msgAuthAck m.result m.enc
  | .sessionAck m => ackMandatory msgSessionAck m.result m.enc
  | .sessionRefreshAck m => ackMandatory msgSessionRefreshAck m.result m.enc
  | .apiKeyResponse m => if r.withLength then leBytes 2 m.enc.length ++ m.enc else m.enc
  | .apiKeyRevokeAck m => ackMandatory msgAPIKeyRevokeAck m.result m.enc
  | .apiKeyStatusResp m => m.encHead
  | .apiKeyDeleteAck m => [msgAPIKeyDeleteAck, m.result, m.errorCode]
  | .vpnProvisionAck m => ackMandatory msgVPNProvisionAck m.result m.enc

/-- The optional fields, in their order on the wire. -/
def Reply.optional (r : Reply) : List OptionalField :=
  match r.message with
  | .authChallenge _ => []
  | .authAck m => ackOptional m.result [.u8 m.errorCode, .u16 m.waitSec]
  | .sessionAck m => ackOptional m.result [.u8 m.errorCode]
  | .sessionRefreshAck m => ackOptional m.result [.u8 m.errorCode]
  | .apiKeyResponse _ => []
  | .apiKeyRevokeAck m => ackOptional m.result [.u8 m.errorCode]
  | .apiKeyStatusResp m => m.details
  | .apiKeyDeleteAck _ => []
  | .vpnProvisionAck m => ackOptional m.result [.u8 m.errorCode]

def Reply.bytes (r : Reply) : List UInt8 :=
  r.mandatory ++ OptionalField.encode (r.optional.take r.sent)

/-- No value in a field that the layout does not carry, and strings that fit behind a 16-bit length.
Without a length in front, an `API_KEY_RESPONSE` cannot carry its own type as the error code. -/
def Reply.MessageValid (r : Reply) : Prop :=
  match r.message with
  | .authChallenge m => m.Valid
  | .authAck m => if m.result = resultSuccess then m.Valid
      else m = AuthAck.failure m.result m.errorCode m.waitSec
  | .sessionAck m => if m.result = resultSuccess then m.Valid
      else m = SessionAck.failure m.result m.errorCode
  | .sessionRefreshAck m => if m.result = resultSuccess then m.Valid
      else m = SessionRefreshAck.failure m.result m.errorCode
  | .apiKeyResponse m => m.Valid ∧ (r.withLength = false → m.errorCode ≠ msgAPIKeyResponse)
  | .apiKeyRevokeAck m => m.result = resultSuccess → m.errorCode = 0
  | .apiKeyStatusResp m => m.Valid
  | .apiKeyDeleteAck _ => True
  | .vpnProvisionAck m => if m.result = resultSuccess then m.Valid
      else m = VPNProvisionAck.failure m.result m.errorCode

/-- A valid message whose optional fields that are not sent have their default values. -/
structure Reply.WellFormed (r : Reply) : Prop where
  message : r.MessageValid
  unsent : ∀ field ∈ r.optional.drop r.sent, field.isDefault = true

/-- The first `n` bytes have all mandatory fields, and each optional field that is not complete in
them has its default value. -/
def Reply.Covered (r : Reply) (n : ℕ) : Prop :=
  r.mandatory.length ≤ n ∧ OptionalField.covers r.optional (n - r.mandatory.length) = true

/-! ## Acknowledgements -/

section Ack

variable {α : Type} {head : Reader UInt8} {type result : UInt8} {failed : UInt8 → Reader α}
  {succeeded : Reader α} {m : α} {d : List UInt8}

theorem readAck_success_iff {L : α → List UInt8 → Prop} {tail : List UInt8}
    (hhead : Reads head fun result bs ↦ bs = [type, result]) (hsucceeded : Reads succeeded L)
    (hL : L m tail) (hd : d <+: type :: resultSuccess :: tail) :
    ((readAck head failed succeeded).parse d).value? = some m ↔ tail.length + 2 ≤ d.length := by
  have hrest : ∀ t, t <+: tail → (((if resultSuccess ≠ resultSuccess then failed resultSuccess
      else succeeded) ([type, resultSuccess] ++ t) [type, resultSuccess].length).value?.map
        Prod.fst = some m ↔ tail.length ≤ t.length) := by
    intro t ht
    rw [if_neg (not_not.mpr rfl)]
    exact hsucceeded.value?_iff hL ht _
  refine (hhead.parse_bind_iff _ rfl hrest hd).trans ?_
  change 2 ≤ d.length ∧ tail.length ≤ d.length - 2 ↔ tail.length + 2 ≤ d.length
  omega

theorem readAck_failure_iff {g : List UInt8 → α × List UInt8} {K : List UInt8 → Prop}
    {fields : List OptionalField} (hhead : Reads head fun result bs ↦ bs = [type, result])
    (hresult : result ≠ resultSuccess) (hfailed : Peels (failed result) g)
    (hK : ReadBack K fields) (hm : ∀ t, (g t).1 = m ↔ K t)
    (hd : d <+: [type, result] ++ OptionalField.encode fields) :
    ((readAck head failed succeeded).parse d).value? = some m ↔
      2 ≤ d.length ∧ OptionalField.covers fields (d.length - 2) = true := by
  have hrest : ∀ t, t <+: OptionalField.encode fields → (((if result ≠ resultSuccess then
      failed result else succeeded) ([type, result] ++ t) [type, result].length).value?.map
        Prod.fst = some m ↔ OptionalField.covers fields t.length = true) := by
    intro t ht
    rw [if_pos hresult]
    exact hK.value?_iff hfailed hm ht _
  exact hhead.parse_bind_iff (fun n ↦ OptionalField.covers fields n = true) rfl hrest hd

/-- An acknowledgement that on success is `enc m`, cut somewhere. -/
theorem readAck_value?_iff {g : List UInt8 → α × List UInt8} {K : List UInt8 → Prop}
    {fields : List OptionalField} {valid : α → Prop} {enc : α → List UInt8}
    (hhead : Reads head fun result bs ↦ bs = [type, result])
    (hsucceeded : Reads succeeded fun m tail ↦ valid m ∧ enc m = type :: resultSuccess :: tail)
    (hfailed : Peels (failed result) g) (hK : ReadBack K fields)
    (henc : ∃ tail, enc m = type :: resultSuccess :: tail)
    (hvalid : result = resultSuccess → valid m)
    (hm : result ≠ resultSuccess → ∀ t, (g t).1 = m ↔ K t)
    (hd : d <+: ackMandatory type result (enc m) ++
      OptionalField.encode (ackOptional result fields)) :
    ((readAck head failed succeeded).parse d).value? = some m ↔
      (ackMandatory type result (enc m)).length ≤ d.length ∧
      OptionalField.covers (ackOptional result fields)
        (d.length - (ackMandatory type result (enc m)).length) = true := by
  by_cases hresult : result = resultSuccess
  · obtain ⟨tail, htail⟩ := henc
    rw [ackMandatory, if_pos hresult, ackOptional, if_pos hresult] at hd ⊢
    rw [OptionalField.encode, List.map_nil, List.flatten_nil, List.append_nil, htail] at hd
    rw [readAck_success_iff hhead hsucceeded ⟨hvalid hresult, htail⟩ hd, htail]
    exact (and_iff_left rfl).symm
  · rw [ackMandatory, if_neg hresult, ackOptional, if_neg hresult] at hd ⊢
    exact readAck_failure_iff hhead hresult hfailed hK (hm hresult) hd

theorem readAck_failedWith_iff {failure : UInt8 → UInt8 → α} {errorCode : UInt8}
    {valid : α → Prop} {enc : α → List UInt8}
    (hhead : Reads head fun result bs ↦ bs = [type, result])
    (hsucceeded : Reads succeeded fun m tail ↦ valid m ∧ enc m = type :: resultSuccess :: tail)
    (henc : ∃ tail, enc m = type :: resultSuccess :: tail)
    (hinj : Function.Injective (failure result))
    (hvalid : if result = resultSuccess then valid m else m = failure result errorCode)
    (hd : d <+: ackMandatory type result (enc m) ++
      OptionalField.encode (ackOptional result [.u8 errorCode])) :
    ((readAck head (fun result ↦ failedWith (failure result)) succeeded).parse d).value? = some m ↔
      (ackMandatory type result (enc m)).length ≤ d.length ∧
      OptionalField.covers (ackOptional result [.u8 errorCode])
        (d.length - (ackMandatory type result (enc m)).length) = true := by
  refine readAck_value?_iff hhead hsucceeded (peels_failedWith (failure result))
    (readBack_nil.u8 errorCode) henc (fun hresult ↦ ?_) (fun hresult t ↦ ?_) hd
  · rwa [if_pos hresult] at hvalid
  · rw [if_neg hresult] at hvalid
    rw [hvalid, hinj.eq_iff, and_true]

end Ack

/-! ## API key replies -/

theorem reads_apiKeyFields :
    Reads readAPIKeyFields fun m bs ↦ m.Valid ∧ m.enc = msgAPIKeyResponse :: bs := by
  have hbranch : ∀ result errorCode, Reads
      (if result = 0x00 then do
        let apiKey ← Reader.string16 "packet too short for key length"
          "packet too short for key data"
        let expiresAt ← Reader.u64 "packet too short for expires_at"
        return APIKeyResponse.mk result errorCode apiKey expiresAt
      else return APIKeyResponse.mk result errorCode [] 0)
      fun m bs ↦ m.Valid ∧ m.enc = msgAPIKeyResponse :: result :: errorCode :: bs := by
    intro result errorCode
    by_cases hresult : result = 0x00
    · rw [if_pos hresult]
      have hread := (reads_string16 "packet too short for key length"
        "packet too short for key data").bind fun apiKey ↦
          (reads_u64 "packet too short for expires_at").bind fun expiresAt ↦
            reads_pure (APIKeyResponse.mk result errorCode apiKey expiresAt)
      refine Reads.congr hread fun m bs ↦ ?_
      constructor
      · rintro ⟨apiKey, _, _, ⟨hkey, rfl⟩, ⟨expiresAt, _, _, rfl, ⟨rfl, rfl⟩, rfl⟩, rfl⟩
        refine ⟨⟨hkey, absurd hresult⟩, ?_⟩
        rw [APIKeyResponse.enc, if_pos hresult, List.append_nil]
      · rintro ⟨hm, henc⟩
        rcases m with ⟨result', errorCode', apiKey, expiresAt⟩
        obtain ⟨-, rfl, rfl, rfl⟩ := by simpa only [APIKeyResponse.enc, List.cons.injEq] using henc
        rw [if_pos hresult]
        exact ⟨apiKey, _, _, ⟨hm.apiKey, rfl⟩, ⟨expiresAt, _, [], rfl, ⟨rfl, rfl⟩, rfl⟩, by simp⟩
    · rw [if_neg hresult]
      refine (reads_pure _).congr fun m bs ↦ ?_
      constructor
      · rintro ⟨rfl, rfl⟩
        refine ⟨⟨Nat.zero_le _, fun _ ↦ ⟨rfl, rfl⟩⟩, ?_⟩
        rw [APIKeyResponse.enc, if_neg hresult]
      · rintro ⟨hm, henc⟩
        rcases m with ⟨result', errorCode', apiKey, expiresAt⟩
        obtain ⟨-, rfl, rfl, rfl⟩ := by simpa only [APIKeyResponse.enc, List.cons.injEq] using henc
        obtain ⟨rfl, rfl⟩ := hm.failed hresult
        rw [if_neg hresult]
        exact ⟨rfl, rfl⟩
  have hread := (reads_u8 "packet too short for result").bind fun result ↦
    (reads_u8 "packet too short for error code").bind fun errorCode ↦ hbranch result errorCode
  refine Reads.congr hread fun m bs ↦ ?_
  constructor
  · rintro ⟨result, bs₁, bs₂, rfl, ⟨errorCode, bs₃, bs₄, rfl, hm, rfl⟩, rfl⟩
    exact hm
  · rintro ⟨hm, henc⟩
    obtain rfl := (List.cons.inj henc).2
    exact ⟨m.result, _, _, rfl, ⟨m.errorCode, _, _, rfl, ⟨hm, rfl⟩, rfl⟩, rfl⟩

theorem readAPIKeyResponse_append (pre t : List UInt8) :
    readAPIKeyResponse (pre ++ msgAPIKeyResponse :: t) pre.length =
      readAPIKeyFields ((pre ++ [msgAPIKeyResponse]) ++ t) (pre ++ [msgAPIKeyResponse]).length := by
  rw [readAPIKeyResponse, Reader.bind_apply, Reader.index_append, List.append_assoc,
    List.length_append]
  rfl

theorem parseAPIKeyResponse_short {d : List UInt8} (hd : d.length < 3) :
    (parseAPIKeyResponse d).value? = none := by
  rcases d with _ | ⟨b, _ | ⟨b', _ | ⟨b'', d⟩⟩⟩
  · rfl
  · by_cases hb : b = msgAPIKeyResponse
    · subst hb
      rfl
    · simp [parseAPIKeyResponse, hb, Outcome.value?]
  · by_cases hb : b = msgAPIKeyResponse
    · subst hb
      rfl
    · simp [parseAPIKeyResponse, hb, Outcome.value?]
  · exact absurd hd (by simp)

theorem parseAPIKeyResponse_plain {t : List UInt8} (h : t[1]? ≠ some msgAPIKeyResponse) :
    parseAPIKeyResponse (msgAPIKeyResponse :: t) =
      (readAPIKeyResponse (msgAPIKeyResponse :: t) 0).map Prod.fst := by
  rw [parseAPIKeyResponse]
  dsimp only
  rw [if_neg (fun hthird ↦ h hthird.2), if_pos rfl]

theorem parseAPIKeyResponse_plain_iff {m : APIKeyResponse} {d : List UInt8} (hm : m.Valid)
    (hcode : m.errorCode ≠ msgAPIKeyResponse) (hd : d <+: m.enc) :
    (parseAPIKeyResponse d).value? = some m ↔ m.enc.length ≤ d.length := by
  obtain ⟨tail, htail⟩ : ∃ tail, m.enc = msgAPIKeyResponse :: m.result :: m.errorCode :: tail :=
    ⟨_, rfl⟩
  rcases d with _ | ⟨b, t⟩
  · rw [parseAPIKeyResponse_short (by simp), htail]
    exact iff_of_false (by simp) (by simp)
  · rw [htail] at hd ⊢
    obtain ⟨rfl, ht⟩ := List.cons_prefix_cons.mp hd
    have hthird : t[1]? ≠ some msgAPIKeyResponse := by
      intro hthird
      obtain ⟨rest, hrest⟩ := ht
      have hsome : (t ++ rest)[1]? = some msgAPIKeyResponse := by
        rwa [List.getElem?_append_left (List.getElem?_eq_some_iff.mp hthird).1]
      rw [hrest] at hsome
      exact hcode (Option.some.inj hsome)
    rw [parseAPIKeyResponse_plain hthird, Outcome.value?_map]
    have hread := readAPIKeyResponse_append [] t
    rw [List.nil_append, List.length_nil] at hread
    rw [hread, reads_apiKeyFields.value?_iff ⟨hm, htail⟩ ht]
    exact Nat.add_le_add_iff_right.symm

theorem parseAPIKeyResponse_withLength {n : ℕ} (hn : n ≤ 65535) (t : List UInt8) :
    (parseAPIKeyResponse (leBytes 2 n ++ msgAPIKeyResponse :: t)).value? =
      if t.length + 1 < n then none
      else (readAPIKeyResponse (leBytes 2 n ++ msgAPIKeyResponse :: t) 2).value?.map Prod.fst := by
  have hvalue : (UInt16.ofNat (leValue (leBytes 2 n))).toNat = n := by
    rw [leValue_leBytes (Nat.lt_succ_of_le hn), UInt16.toNat_ofNat_of_lt' (Nat.lt_succ_of_le hn)]
  have hdata : leBytes 2 n ++ msgAPIKeyResponse :: t =
      UInt8.ofNat n :: UInt8.ofNat (n / 256) :: msgAPIKeyResponse :: t := rfl
  rw [hdata, parseAPIKeyResponse]
  dsimp only
  rw [if_pos ⟨by simp, rfl⟩]
  change Outcome.value? (if t.length + 3 < (UInt16.ofNat (leValue (leBytes 2 n))).toNat + 2 then
    _ else _) = _
  rw [hvalue]
  by_cases hlt : t.length + 1 < n
  · rw [if_pos hlt, if_pos (by omega)]
    rfl
  · rw [if_neg hlt, if_neg (by omega), Outcome.value?_map]

theorem parseAPIKeyResponse_withLength_iff {m : APIKeyResponse} {d : List UInt8} (hm : m.Valid)
    (hlen : m.enc.length ≤ 65535) (hd : d <+: leBytes 2 m.enc.length ++ m.enc) :
    (parseAPIKeyResponse d).value? = some m ↔
      (leBytes 2 m.enc.length ++ m.enc).length ≤ d.length := by
  obtain ⟨tail, htail⟩ : ∃ tail, m.enc = msgAPIKeyResponse :: tail := ⟨_, rfl⟩
  by_cases hshort : d.length < 3
  · rw [parseAPIKeyResponse_short hshort]
    refine iff_of_false (by simp) ?_
    rw [List.length_append, length_leBytes]
    have : 3 ≤ m.enc.length := by simp [APIKeyResponse.enc]
    omega
  rcases prefix_append_cases hd with ⟨t, rfl, ht⟩ | ⟨-, hlt⟩
  · rw [htail] at ht
    rcases t with _ | ⟨b, t⟩
    · exact absurd hshort (by simp)
    obtain ⟨rfl, ht'⟩ := List.cons_prefix_cons.mp ht
    rw [parseAPIKeyResponse_withLength hlen, htail, List.length_cons]
    by_cases hall : t.length < tail.length
    · rw [if_pos (by omega)]
      refine iff_of_false (by simp) ?_
      simp only [List.length_append, length_leBytes, List.length_cons]
      omega
    · rw [if_neg (by omega)]
      have hread := readAPIKeyResponse_append (leBytes 2 (tail.length + 1)) t
      rw [length_leBytes] at hread
      rw [hread, reads_apiKeyFields.value?_iff ⟨hm, htail⟩ ht']
      simp only [List.length_append, length_leBytes, List.length_cons]
      omega
  · rw [length_leBytes] at hlt
    omega

theorem reads_statusHead :
    Reads readStatusHead fun head bs ↦ head.2.1.length ≤ 65535 ∧ head.2.2.length ≤ 65535 ∧
      bs = msgAPIKeyStatusResp :: head.1 :: (putString16 head.2.1 ++ putString16 head.2.2) := by
  have hread := (reads_messageType msgAPIKeyStatusResp).bind fun _ ↦
    (reads_u8 "packet too short for has_active_key").bind fun hasActiveKey ↦
      (reads_string16 "packet too short for status length"
        "packet too short for status data").bind fun status ↦
          (reads_string16 "packet too short for api_key length"
            "packet too short for api_key data").bind fun apiKey ↦
              reads_pure (hasActiveKey, status, apiKey)
  refine Reads.congr hread fun head bs ↦ ?_
  rcases head with ⟨hasActiveKey, status, apiKey⟩
  simp [and_assoc]

/-- The details of an active key, read one after the other. -/
def peelActiveKey (hasActiveKey : UInt8) (status apiKey rem : List UInt8) :
    APIKeyStatusResponse × List UInt8 :=
  let createdAt := peelU64 rem
  let expiresAt := peelU64 createdAt.2
  let userUUID := peelString16 expiresAt.2
  let userActivatedAt := peelU64 userUUID.2
  (⟨hasActiveKey, status, apiKey, createdAt.1, expiresAt.1, userUUID.1, userActivatedAt.1⟩,
    userActivatedAt.2)

theorem peels_readActiveKey (hasActiveKey : UInt8) (status apiKey : List UInt8) :
    Peels (readActiveKey hasActiveKey status apiKey)
      (peelActiveKey hasActiveKey status apiKey) := by
  have hread := peels_optionalU64.bind fun createdAt ↦ peels_optionalU64.bind fun expiresAt ↦
    peels_optionalString16.bind fun userUUID ↦ peels_optionalU64.bind fun userActivatedAt ↦
      peels_pure (APIKeyStatusResponse.mk hasActiveKey status apiKey createdAt expiresAt userUUID
        userActivatedAt)
  exact hread

theorem parseAPIKeyStatusResponse_iff {m : APIKeyStatusResponse} {d : List UInt8} (hm : m.Valid)
    (hd : d <+: m.encHead ++ OptionalField.encode m.details) :
    (parseAPIKeyStatusResponse d).value? = some m ↔ m.encHead.length ≤ d.length ∧
      OptionalField.covers m.details (d.length - m.encHead.length) = true := by
  refine reads_statusHead.parse_bind_iff (fun n ↦ OptionalField.covers m.details n = true)
    (a := (m.hasActiveKey, m.status, m.apiKey)) ⟨hm.status, hm.apiKey, rfl⟩ (fun t ht ↦ ?_) hd
  dsimp only
  by_cases hkey : m.hasActiveKey = 0x01
  · rw [if_pos hkey]
    rw [APIKeyStatusResponse.details, if_pos hkey] at ht ⊢
    refine ReadBack.value?_iff ((((readBack_nil.u64 m.userActivatedAt).string16 hm.userUUID).u64
      m.expiresAt).u64 m.createdAt) (peels_readActiveKey _ _ _) (fun t ↦ ?_) ht _
    rcases m with ⟨hasActiveKey, status, apiKey, createdAt, expiresAt, userUUID, userActivatedAt⟩
    simp [peelActiveKey]
  · rw [if_neg hkey, APIKeyStatusResponse.details, if_neg hkey]
    obtain ⟨hcreated, hexpires, huser, hactivated⟩ := hm.noKey hkey
    rcases m with ⟨hasActiveKey, status, apiKey, createdAt, expiresAt, userUUID, userActivatedAt⟩
    subst hcreated hexpires huser hactivated
    exact iff_of_true rfl rfl

theorem reads_apiKeyDeleteAck :
    Reads readAPIKeyDeleteAck
      fun m bs ↦ bs = [msgAPIKeyDeleteAck, m.result, m.errorCode] := by
  have hread := (reads_messageType msgAPIKeyDeleteAck).bind fun _ ↦
    (reads_u8 "packet too short for result").bind fun result ↦
      (reads_u8 "packet too short for error_code").bind fun errorCode ↦
        reads_pure (APIKeyDeleteAck.mk result errorCode)
  refine Reads.congr hread fun m bs ↦ ?_
  rcases m with ⟨result, errorCode⟩
  simp [and_assoc]

theorem reads_apiKeyRevoked :
    Reads (return APIKeyRevokeAck.mk resultSuccess 0) fun m tail ↦
      (m.result = resultSuccess ∧ m.errorCode = 0) ∧
        m.enc = msgAPIKeyRevokeAck :: resultSuccess :: tail := by
  refine (reads_pure _).congr fun m bs ↦ ?_
  rcases m with ⟨result, errorCode⟩
  simp [APIKeyRevokeAck.enc, eq_comm]

/-! ## Decoding the first piece -/

theorem Reply.covered_iff {r : Reply} (h : r.optional = []) (n : ℕ) :
    r.Covered n ↔ r.mandatory.length ≤ n := by
  rw [Covered, h]
  exact and_iff_left rfl

theorem Reply.prefix_mandatory {r : Reply} (h : r.optional = []) {d : List UInt8}
    (hd : d <+: r.mandatory ++ OptionalField.encode r.optional) : d <+: r.mandatory := by
  rw [h] at hd
  exact hd.trans (by simp [OptionalField.encode])

/-- A part of a message decodes to the message exactly when it covers it: the parsers, one by
one. -/
theorem Reply.decode_iff {r : Reply} (hr : r.MessageValid) (hlen : r.mandatory.length ≤ 65535)
    {d : List UInt8} (hd : d <+: r.mandatory ++ OptionalField.encode r.optional) :
    r.message.kind.decode d = some r.message ↔ r.Covered d.length := by
  have hmap : ∀ {α : Type} {f : α → ServerMessage} (x : Option α) (m : α), Function.Injective f →
      (x.map f = some (f m) ↔ x = some m) :=
    fun x m hf ↦ (Option.map_injective hf).eq_iff' rfl
  rcases r with ⟨m | m | m | m | m | m | m | m | m, withLength, sent⟩
  · refine (hmap _ m fun _ _ ↦ ServerMessage.authChallenge.inj).trans ?_
    rw [covered_iff rfl]
    exact reads_authChallenge.parse_iff ⟨hr, rfl⟩ (prefix_mandatory rfl hd)
  · refine (hmap _ m fun _ _ ↦ ServerMessage.authAck.inj).trans ?_
    refine readAck_value?_iff (reads_ackHead msgAuthAck) reads_authSuccess
      (peels_failedAuth m.result) ((readBack_nil.u16 m.waitSec).u8 m.errorCode) ⟨_, rfl⟩
      (fun hresult ↦ ?_) (fun hresult t ↦ ?_) hd
    · exact (if_pos hresult).mp hr
    · have hm : m = AuthAck.failure m.result m.errorCode m.waitSec := (if_neg hresult).mp hr
      rw [hm]
      simp [AuthAck.failure]
  · refine (hmap _ m fun _ _ ↦ ServerMessage.sessionAck.inj).trans ?_
    exact readAck_failedWith_iff (reads_ackHead msgSessionAck) reads_sessionSuccess ⟨_, rfl⟩
      (fun _ _ h ↦ (SessionAck.mk.inj h).2.1) hr hd
  · refine (hmap _ m fun _ _ ↦ ServerMessage.sessionRefreshAck.inj).trans ?_
    exact readAck_failedWith_iff (reads_ackHead msgSessionRefreshAck) reads_sessionRefreshSuccess
      ⟨_, rfl⟩ (fun _ _ h ↦ (SessionRefreshAck.mk.inj h).2.1) hr hd
  · refine (hmap _ m fun _ _ ↦ ServerMessage.apiKeyResponse.inj).trans ?_
    rw [covered_iff rfl]
    rcases withLength with _ | _
    · exact parseAPIKeyResponse_plain_iff hr.1 (hr.2 rfl) (prefix_mandatory rfl hd)
    · refine parseAPIKeyResponse_withLength_iff hr.1 ?_ (prefix_mandatory rfl hd)
      refine Nat.le_trans ?_ hlen
      exact (List.suffix_append _ _).length_le
  · refine (hmap _ m fun _ _ ↦ ServerMessage.apiKeyRevokeAck.inj).trans ?_
    refine readAck_failedWith_iff (reads_ackHead msgAPIKeyRevokeAck) reads_apiKeyRevoked
      ⟨_, rfl⟩ (fun _ _ h ↦ (APIKeyRevokeAck.mk.inj h).2) ?_ hd
    by_cases hresult : m.result = resultSuccess
    · rw [if_pos hresult]
      exact ⟨hresult, hr hresult⟩
    · rw [if_neg hresult]
  · refine (hmap _ m fun _ _ ↦ ServerMessage.apiKeyStatusResp.inj).trans ?_
    exact parseAPIKeyStatusResponse_iff hr hd
  · refine (hmap _ m fun _ _ ↦ ServerMessage.apiKeyDeleteAck.inj).trans ?_
    rw [covered_iff rfl]
    exact reads_apiKeyDeleteAck.parse_iff rfl (prefix_mandatory rfl hd)
  · refine (hmap _ m fun _ _ ↦ ServerMessage.vpnProvisionAck.inj).trans ?_
    exact readAck_failedWith_iff reads_vpnAckHead reads_vpnProvisionSuccess ⟨_, rfl⟩
      (fun _ _ h ↦ (VPNProvisionAck.mk.inj h).2.1) hr hd

theorem Reply.bytes_prefix (r : Reply) :
    r.bytes <+: r.mandatory ++ OptionalField.encode r.optional := by
  refine (List.prefix_append_right_inj _).mpr ?_
  obtain ⟨rest, hrest⟩ := List.take_prefix r.sent r.optional
  refine ⟨OptionalField.encode rest, ?_⟩
  nth_rewrite 2 [← hrest]
  rw [OptionalField.encode, OptionalField.encode, OptionalField.encode, List.map_append,
    List.flatten_append]

theorem Reply.WellFormed.covered {r : Reply} (hr : r.WellFormed) : r.Covered r.bytes.length := by
  rw [Covered, bytes, List.length_append, Nat.add_sub_cancel_left]
  exact ⟨Nat.le_add_right _ _, OptionalField.covers_take hr.unsent⟩

theorem receive_eq_decode {kind : ReplyKind} {pieces : List (List UInt8)}
    (h : pieces.flatten.length ≤ readBufferSize) :
    kind.receive pieces = kind.decode (pieces.headD []) := by
  rw [ReplyKind.receive, List.take_of_length_le]
  refine Nat.le_trans ?_ h
  rcases pieces with _ | ⟨piece, pieces⟩
  · exact Nat.le_refl _
  · exact (List.prefix_append piece pieces.flatten).length_le

/-- **One read for one reply.** In one piece a reply decodes to the message that was sent. In
several pieces it does so exactly when the first one covers the mandatory fields, and every optional
field that is cut has its default value. -/
theorem reply_decoded_iff_first_piece_covers (r : Reply) (hr : r.WellFormed)
    (hlen : r.bytes.length ≤ readBufferSize) (pieces : List (List UInt8))
    (hpieces : pieces.flatten = r.bytes) :
    r.message.kind.receive [r.bytes] = some r.message ∧
      (r.message.kind.receive pieces = r.message.kind.receive [r.bytes] ↔
        r.Covered (pieces.headD []).length) := by
  have hmandatory : r.mandatory.length ≤ 65535 := by
    have hle : r.mandatory.length ≤ r.bytes.length := (List.prefix_append _ _).length_le
    rw [readBufferSize] at hlen
    omega
  have hwhole : r.message.kind.receive [r.bytes] = some r.message := by
    rw [receive_eq_decode (by simpa using hlen)]
    exact (Reply.decode_iff hr.message hmandatory r.bytes_prefix).mpr hr.covered
  refine ⟨hwhole, ?_⟩
  rw [hwhole, receive_eq_decode (by rwa [hpieces])]
  refine Reply.decode_iff hr.message hmandatory (List.IsPrefix.trans ?_ r.bytes_prefix)
  rw [← hpieces]
  rcases pieces with _ | ⟨piece, pieces⟩
  · exact List.nil_prefix
  · exact List.prefix_append piece pieces.flatten

/-- A rejected authentication that does not ask to wait, cut before the waiting time. -/
theorem rejection_decoded_without_wait :
    ReplyKind.authAck.receive [[0x04, 0x01, 0x03], [0x00, 0x00]] =
      some (.authAck (AuthAck.failure 0x01 0x03 0)) := by
  have h := reply_decoded_iff_first_piece_covers
    ⟨.authAck (AuthAck.failure 0x01 0x03 0), false, 2⟩ ⟨rfl, List.forall_mem_nil _⟩ (by decide)
    [[0x04, 0x01, 0x03], [0x00, 0x00]] rfl
  exact (h.2.mpr ⟨by decide, by decide⟩).trans h.1

/-- A session that was granted is an error when its reply comes in two pieces, and a rejection loses
its error code and its waiting time. -/
theorem split_replies_misread :
    (∃ r : Reply, ∃ pieces, r.WellFormed ∧ r.bytes.length ≤ readBufferSize ∧
      pieces.flatten = r.bytes ∧ (∀ piece ∈ pieces, piece ≠ []) ∧
      r.message = .sessionAck ⟨resultSuccess, 0, [0x61, 0x62], 1, 60⟩ ∧
      r.message.kind.receive [r.bytes] = some r.message ∧
      r.message.kind.receive pieces = none) ∧
    (∃ r : Reply, ∃ pieces, r.WellFormed ∧ r.bytes.length ≤ readBufferSize ∧
      pieces.flatten = r.bytes ∧ (∀ piece ∈ pieces, piece ≠ []) ∧
      r.message = .authAck (AuthAck.failure 0x01 0x07 30) ∧
      r.message.kind.receive [r.bytes] = some r.message ∧
      r.message.kind.receive pieces = some (.authAck (AuthAck.failure 0x01 0 0))) := by
  refine ⟨⟨⟨.sessionAck ⟨resultSuccess, 0, [0x61, 0x62], 1, 60⟩, false, 0⟩,
    [[0x11, 0x00, 0x02, 0x00, 0x61], [0x62, 1, 0, 0, 0, 0, 0, 0, 0, 60, 0]], ?_, by decide, rfl,
    by decide, rfl, by decide, by decide⟩, ?_⟩
  · exact ⟨⟨by decide, rfl, rfl⟩, List.forall_mem_nil _⟩
  · exact ⟨⟨.authAck (AuthAck.failure 0x01 0x07 30), false, 2⟩,
      [[0x04, 0x01], [0x07, 0x1e, 0x00]], ⟨rfl, List.forall_mem_nil _⟩, by decide, rfl,
      by decide, rfl, by decide, by decide⟩

end DroneBridge
