import DroneBridge.Lib.Delimited

/-!
# The client's requests

`auth/protocol.go` builds every packet the client sends: a type byte, strings behind two-byte
lengths, and little-endian numbers. Strings are byte strings here, as they are on the wire.

All encodings but one are delimited field by field. The exception is `REGISTER_INIT`, whose trailer
with the vehicle type and the model is left out when both are zero; a packet without a trailer then
stands for these values, and a packet with one never does.
-/

namespace DroneBridge

/-! ## Message types -/

def msgAuthInit : UInt8 := 0x01
def msgAuthResponse : UInt8 := 0x03
def msgSessionNew : UInt8 := 0x10
def msgSessionRefresh : UInt8 := 0x12
def msgAPIKeyRequest : UInt8 := 0x20
def msgAPIKeyRevoke : UInt8 := 0x22
def msgAPIKeyStatus : UInt8 := 0x24
def msgAPIKeyDelete : UInt8 := 0x26
def msgRegisterInit : UInt8 := 0xA0
def msgRegisterResponse : UInt8 := 0xA2
def msgVPNProvisionRequest : UInt8 := 0xB0

def maxRegisterModelLen : ℕ := 32

/-! ## Messages -/

structure AuthInit where
  droneUUID : List UInt8
  deriving DecidableEq, Repr

structure AuthResponse where
  droneUUID : List UInt8
  hmac : List UInt8
  timestamp : UInt64
  ip : List UInt8
  deriving DecidableEq, Repr

structure SessionRequest where
  droneUUID : List UInt8
  oldSessionToken : List UInt8
  deriving DecidableEq, Repr

structure SessionRefreshRequest where
  sessionToken : List UInt8
  droneUUID : List UInt8
  deriving DecidableEq, Repr

structure RegisterInit where
  droneUUID : List UInt8
  vehicleType : UInt8
  model : List UInt8
  deriving DecidableEq, Repr

structure RegisterResponse where
  droneUUID : List UInt8
  hmac : List UInt8
  timestamp : UInt64
  deriving DecidableEq, Repr

structure APIKeyRequest where
  droneUUID : List UInt8
  sessionToken : List UInt8
  expirationHours : UInt16
  deriving DecidableEq, Repr

structure APIKeyRevokeRequest where
  droneUUID : List UInt8
  sessionToken : List UInt8
  deriving DecidableEq, Repr

structure APIKeyStatusRequest where
  droneUUID : List UInt8
  sessionToken : List UInt8
  deriving DecidableEq, Repr

structure APIKeyDeleteRequest where
  droneUUID : List UInt8
  sessionToken : List UInt8
  deriving DecidableEq, Repr

structure VPNProvisionRequest where
  droneUUID : List UInt8
  sessionToken : List UInt8
  wgPublicKey : List UInt8
  deriving DecidableEq, Repr

/-! ## Packets -/

/-- The packets that hold two strings behind their type. -/
def serializePair (type : UInt8) (first second : List UInt8) : List UInt8 :=
  type :: (putString16 first ++ putString16 second)

def serializeAuthInit (init : AuthInit) : List UInt8 := msgAuthInit :: putString16 init.droneUUID

def serializeAuthResponse (resp : AuthResponse) : List UInt8 :=
  msgAuthResponse :: (putString16 resp.droneUUID ++ (putString16 resp.hmac ++
    (leBytes 8 resp.timestamp.toNat ++ putString16 resp.ip)))

def serializeSessionRequest (req : SessionRequest) : List UInt8 :=
  serializePair msgSessionNew req.droneUUID req.oldSessionToken

def serializeSessionRefresh (req : SessionRefreshRequest) : List UInt8 :=
  serializePair msgSessionRefresh req.sessionToken req.droneUUID

/-- A model label cut to the length a registration carries. -/
def cutModel (model : List UInt8) : List UInt8 :=
  if maxRegisterModelLen < model.length then model.take maxRegisterModelLen else model

/-- The trailer of `REGISTER_INIT`, left out when there is nothing in it. -/
def registerTrailer (vehicleType : UInt8) (model : List UInt8) : List UInt8 :=
  if vehicleType ≠ 0 ∨ 0 < model.length then
    vehicleType :: UInt8.ofNat model.length :: model
  else []

def serializeRegisterInit (init : RegisterInit) : List UInt8 :=
  msgRegisterInit ::
    (putString16 init.droneUUID ++ registerTrailer init.vehicleType (cutModel init.model))

def serializeRegisterResponse (resp : RegisterResponse) : List UInt8 :=
  msgRegisterResponse ::
    (putString16 resp.droneUUID ++ (putString16 resp.hmac ++ leBytes 8 resp.timestamp.toNat))

def serializeAPIKeyRequest (req : APIKeyRequest) : List UInt8 :=
  msgAPIKeyRequest :: (putString16 req.droneUUID ++ (putString16 req.sessionToken ++
    leBytes 2 req.expirationHours.toNat))

def serializeAPIKeyRevoke (req : APIKeyRevokeRequest) : List UInt8 :=
  serializePair msgAPIKeyRevoke req.droneUUID req.sessionToken

def serializeAPIKeyStatus (req : APIKeyStatusRequest) : List UInt8 :=
  serializePair msgAPIKeyStatus req.droneUUID req.sessionToken

def serializeAPIKeyDelete (req : APIKeyDeleteRequest) : List UInt8 :=
  serializePair msgAPIKeyDelete req.droneUUID req.sessionToken

def serializeVPNProvisionRequest (req : VPNProvisionRequest) : List UInt8 :=
  msgVPNProvisionRequest :: (putString16 req.droneUUID ++ (putString16 req.sessionToken ++
    putString16 req.wgPublicKey))

/-- The request of `Register`, from the vehicle type and the model as `SetRegistrationMeta` has
stored them. -/
def registerInit (droneUUID : List UInt8) (vehicleType : UInt8) (model : List UInt8) :
    RegisterInit :=
  ⟨droneUUID, vehicleType, cutModel model⟩

/-! ## Requests -/

inductive ClientRequest
  | authInit (m : AuthInit)
  | authResponse (m : AuthResponse)
  | sessionNew (m : SessionRequest)
  | sessionRefresh (m : SessionRefreshRequest)
  | registerInit (m : RegisterInit)
  | registerResponse (m : RegisterResponse)
  | apiKeyRequest (m : APIKeyRequest)
  | apiKeyRevoke (m : APIKeyRevokeRequest)
  | apiKeyStatus (m : APIKeyStatusRequest)
  | apiKeyDelete (m : APIKeyDeleteRequest)
  | vpnProvision (m : VPNProvisionRequest)
  deriving DecidableEq, Repr

namespace ClientRequest

def serialize : ClientRequest → List UInt8
  | authInit m => serializeAuthInit m
  | authResponse m => serializeAuthResponse m
  | sessionNew m => serializeSessionRequest m
  | sessionRefresh m => serializeSessionRefresh m
  | registerInit m => serializeRegisterInit m
  | registerResponse m => serializeRegisterResponse m
  | apiKeyRequest m => serializeAPIKeyRequest m
  | apiKeyRevoke m => serializeAPIKeyRevoke m
  | apiKeyStatus m => serializeAPIKeyStatus m
  | apiKeyDelete m => serializeAPIKeyDelete m
  | vpnProvision m => serializeVPNProvisionRequest m

def type : ClientRequest → UInt8
  | authInit _ => msgAuthInit
  | authResponse _ => msgAuthResponse
  | sessionNew _ => msgSessionNew
  | sessionRefresh _ => msgSessionRefresh
  | registerInit _ => msgRegisterInit
  | registerResponse _ => msgRegisterResponse
  | apiKeyRequest _ => msgAPIKeyRequest
  | apiKeyRevoke _ => msgAPIKeyRevoke
  | apiKeyStatus _ => msgAPIKeyStatus
  | apiKeyDelete _ => msgAPIKeyDelete
  | vpnProvision _ => msgVPNProvisionRequest

/-- The strings that stand behind a two-byte length. -/
def strings : ClientRequest → List (List UInt8)
  | authInit m => [m.droneUUID]
  | authResponse m => [m.droneUUID, m.hmac, m.ip]
  | sessionNew m => [m.droneUUID, m.oldSessionToken]
  | sessionRefresh m => [m.sessionToken, m.droneUUID]
  | registerInit m => [m.droneUUID]
  | registerResponse m => [m.droneUUID, m.hmac]
  | apiKeyRequest m => [m.droneUUID, m.sessionToken]
  | apiKeyRevoke m => [m.droneUUID, m.sessionToken]
  | apiKeyStatus m => [m.droneUUID, m.sessionToken]
  | apiKeyDelete m => [m.droneUUID, m.sessionToken]
  | vpnProvision m => [m.droneUUID, m.sessionToken, m.wgPublicKey]

/-- Every string fits its length field, and a model is not cut. -/
def Valid (r : ClientRequest) : Prop :=
  (∀ s ∈ r.strings, s.length ≤ 65535) ∧
    ∀ m, r = registerInit m → m.model.length ≤ maxRegisterModelLen

theorem head_serialize (r : ClientRequest) : r.serialize.head? = some r.type := by
  cases r <;> rfl

end ClientRequest

/-! ## Telling requests apart -/

theorem cutModel_of_le {model : List UInt8} (h : model.length ≤ maxRegisterModelLen) :
    cutModel model = model :=
  if_neg (Nat.not_lt.mpr h)

/-- The trailer determines what it stands for, also when it is left out. -/
theorem registerTrailer_inj {v w : UInt8} {a b : List UInt8}
    (h : registerTrailer v a = registerTrailer w b) : v = w ∧ a = b := by
  have hempty : ∀ {v : UInt8} {a : List UInt8}, ¬(v ≠ 0 ∨ 0 < a.length) → v = 0 ∧ a = [] := by
    intro v a hv
    rw [not_or, not_ne_iff, Nat.not_lt, Nat.le_zero, List.length_eq_zero_iff] at hv
    exact hv
  rw [registerTrailer, registerTrailer] at h
  split at h <;> split at h
  · rw [List.cons_eq_cons, List.cons_eq_cons] at h
    exact ⟨h.1, h.2.2⟩
  · exact absurd h (List.cons_ne_nil _ _)
  · exact absurd h.symm (List.cons_ne_nil _ _)
  · rename_i hv hw
    obtain ⟨rfl, rfl⟩ := hempty hv
    obtain ⟨rfl, rfl⟩ := hempty hw
    exact ⟨rfl, rfl⟩

/-- A string that fits a two-byte length. -/
abbrev Fits (s : List UInt8) : Prop := s.length ≤ 65535

theorem serializePair_inj {type : UInt8} {a b a' b' : List UInt8} (hab : Fits a ∧ Fits b)
    (hab' : Fits a' ∧ Fits b') (h : serializePair type a b = serializePair type a' b') :
    a = a' ∧ b = b' := by
  have hpair := delimited_string16.append delimited_string16
  have heq : (a, b) = (a', b') := hpair.inj hab hab' (List.cons_eq_cons.mp h).2
  exact Prod.mk.inj heq

theorem serializeAuthResponse_inj {m m' : AuthResponse} (hm : Fits m.droneUUID ∧ Fits m.hmac ∧
    Fits m.ip) (hm' : Fits m'.droneUUID ∧ Fits m'.hmac ∧ Fits m'.ip)
    (h : serializeAuthResponse m = serializeAuthResponse m') : m = m' := by
  obtain ⟨huuid, h⟩ := delimited_string16 hm.1 hm'.1 (List.cons_eq_cons.mp h).2
  obtain ⟨hhmac, h⟩ := delimited_string16 hm.2.1 hm'.2.1 h
  obtain ⟨htime, h⟩ := delimited_u64 trivial trivial h
  have hip := delimited_string16.inj hm.2.2 hm'.2.2 h
  cases m
  cases m'
  rw [AuthResponse.mk.injEq]
  exact ⟨huuid, hhmac, htime, hip⟩

theorem serializeRegisterInit_inj {m m' : RegisterInit} (hm : Fits m.droneUUID)
    (hm' : Fits m'.droneUUID) (hmodel : m.model.length ≤ maxRegisterModelLen)
    (hmodel' : m'.model.length ≤ maxRegisterModelLen)
    (h : serializeRegisterInit m = serializeRegisterInit m') : m = m' := by
  obtain ⟨huuid, h⟩ := delimited_string16 hm hm' (List.cons_eq_cons.mp h).2
  rw [cutModel_of_le hmodel, cutModel_of_le hmodel'] at h
  obtain ⟨htype, hmod⟩ := registerTrailer_inj h
  cases m
  cases m'
  rw [RegisterInit.mk.injEq]
  exact ⟨huuid, htype, hmod⟩

theorem serializeRegisterResponse_inj {m m' : RegisterResponse}
    (hm : Fits m.droneUUID ∧ Fits m.hmac) (hm' : Fits m'.droneUUID ∧ Fits m'.hmac)
    (h : serializeRegisterResponse m = serializeRegisterResponse m') : m = m' := by
  obtain ⟨huuid, h⟩ := delimited_string16 hm.1 hm'.1 (List.cons_eq_cons.mp h).2
  obtain ⟨hhmac, h⟩ := delimited_string16 hm.2 hm'.2 h
  have htime := delimited_u64.inj trivial trivial h
  cases m
  cases m'
  rw [RegisterResponse.mk.injEq]
  exact ⟨huuid, hhmac, htime⟩

theorem serializeAPIKeyRequest_inj {m m' : APIKeyRequest}
    (hm : Fits m.droneUUID ∧ Fits m.sessionToken) (hm' : Fits m'.droneUUID ∧ Fits m'.sessionToken)
    (h : serializeAPIKeyRequest m = serializeAPIKeyRequest m') : m = m' := by
  obtain ⟨huuid, h⟩ := delimited_string16 hm.1 hm'.1 (List.cons_eq_cons.mp h).2
  obtain ⟨htoken, h⟩ := delimited_string16 hm.2 hm'.2 h
  have hhours := delimited_u16.inj trivial trivial h
  cases m
  cases m'
  rw [APIKeyRequest.mk.injEq]
  exact ⟨huuid, htoken, hhours⟩

theorem serializeVPNProvisionRequest_inj {m m' : VPNProvisionRequest}
    (hm : Fits m.droneUUID ∧ Fits m.sessionToken ∧ Fits m.wgPublicKey)
    (hm' : Fits m'.droneUUID ∧ Fits m'.sessionToken ∧ Fits m'.wgPublicKey)
    (h : serializeVPNProvisionRequest m = serializeVPNProvisionRequest m') : m = m' := by
  obtain ⟨huuid, h⟩ := delimited_string16 hm.1 hm'.1 (List.cons_eq_cons.mp h).2
  obtain ⟨htoken, h⟩ := delimited_string16 hm.2.1 hm'.2.1 h
  have hkey := delimited_string16.inj hm.2.2 hm'.2.2 h
  cases m
  cases m'
  rw [VPNProvisionRequest.mk.injEq]
  exact ⟨huuid, htoken, hkey⟩

namespace ClientRequest

theorem Valid.fits_one {r : ClientRequest} (hr : r.Valid) {a : List UInt8}
    (hs : r.strings = [a]) : Fits a :=
  hr.1 a (hs ▸ List.mem_singleton.mpr rfl)

theorem Valid.fits_two {r : ClientRequest} (hr : r.Valid) {a b : List UInt8}
    (hs : r.strings = [a, b]) : Fits a ∧ Fits b := by
  have hall := hr.1
  rw [hs] at hall
  exact ⟨hall a (by simp), hall b (by simp)⟩

theorem Valid.fits_three {r : ClientRequest} (hr : r.Valid) {a b c : List UInt8}
    (hs : r.strings = [a, b, c]) : Fits a ∧ Fits b ∧ Fits c := by
  have hall := hr.1
  rw [hs] at hall
  exact ⟨hall a (by simp), hall b (by simp), hall c (by simp)⟩

end ClientRequest

/-- **Unique decoding.** Two requests whose strings fit their length fields and whose models are
not cut have the same packet only if they are the same request: of the same type, with the same
fields. -/
theorem request_of_packet_unique {r r' : ClientRequest} (hr : r.Valid) (hr' : r'.Valid)
    (h : r.serialize = r'.serialize) : r = r' := by
  have htype : r.type = r'.type := by
    have hhead := congrArg List.head? h
    rwa [r.head_serialize, r'.head_serialize, Option.some.injEq] at hhead
  -- Two requests of different types differ in the first byte, so one constructor is left for each.
  cases r <;> cases r' <;> try exact absurd htype (by dsimp only [ClientRequest.type]; decide)
  case authInit.authInit m m' =>
    have huuid : m.droneUUID = m'.droneUUID :=
      delimited_string16.inj (hr.fits_one rfl) (hr'.fits_one rfl) (List.cons_eq_cons.mp h).2
    exact congrArg ClientRequest.authInit (congrArg AuthInit.mk huuid)
  case authResponse.authResponse m m' =>
    exact congrArg ClientRequest.authResponse
      (serializeAuthResponse_inj (hr.fits_three rfl) (hr'.fits_three rfl) h)
  case sessionNew.sessionNew m m' =>
    obtain ⟨huuid, htoken⟩ := serializePair_inj (hr.fits_two rfl) (hr'.fits_two rfl) h
    exact congrArg ClientRequest.sessionNew (congrArg₂ SessionRequest.mk huuid htoken)
  case sessionRefresh.sessionRefresh m m' =>
    obtain ⟨htoken, huuid⟩ := serializePair_inj (hr.fits_two rfl) (hr'.fits_two rfl) h
    exact congrArg ClientRequest.sessionRefresh (congrArg₂ SessionRefreshRequest.mk htoken huuid)
  case registerInit.registerInit m m' =>
    exact congrArg ClientRequest.registerInit (serializeRegisterInit_inj (hr.fits_one rfl)
      (hr'.fits_one rfl) (hr.2 m rfl) (hr'.2 m' rfl) h)
  case registerResponse.registerResponse m m' =>
    exact congrArg ClientRequest.registerResponse
      (serializeRegisterResponse_inj (hr.fits_two rfl) (hr'.fits_two rfl) h)
  case apiKeyRequest.apiKeyRequest m m' =>
    exact congrArg ClientRequest.apiKeyRequest
      (serializeAPIKeyRequest_inj (hr.fits_two rfl) (hr'.fits_two rfl) h)
  case apiKeyRevoke.apiKeyRevoke m m' =>
    obtain ⟨huuid, htoken⟩ := serializePair_inj (hr.fits_two rfl) (hr'.fits_two rfl) h
    exact congrArg ClientRequest.apiKeyRevoke (congrArg₂ APIKeyRevokeRequest.mk huuid htoken)
  case apiKeyStatus.apiKeyStatus m m' =>
    obtain ⟨huuid, htoken⟩ := serializePair_inj (hr.fits_two rfl) (hr'.fits_two rfl) h
    exact congrArg ClientRequest.apiKeyStatus (congrArg₂ APIKeyStatusRequest.mk huuid htoken)
  case apiKeyDelete.apiKeyDelete m m' =>
    obtain ⟨huuid, htoken⟩ := serializePair_inj (hr.fits_two rfl) (hr'.fits_two rfl) h
    exact congrArg ClientRequest.apiKeyDelete (congrArg₂ APIKeyDeleteRequest.mk huuid htoken)
  case vpnProvision.vpnProvision m m' =>
    exact congrArg ClientRequest.vpnProvision
      (serializeVPNProvisionRequest_inj (hr.fits_three rfl) (hr'.fits_three rfl) h)

/-- A registration with a vehicle type and an empty model, and its packet. -/
theorem request_of_packet_unique_register :
    ClientRequest.serialize (.registerInit (registerInit [0x61] 2 [])) =
        [0xA0, 1, 0, 0x61, 2, 0] ∧
      ClientRequest.registerInit (registerInit [0x61] 2 []) = .registerInit ⟨[0x61], 2, []⟩ :=
  ⟨by decide, request_of_packet_unique ⟨by decide, by rintro m ⟨⟩; decide⟩
    ⟨by decide, by rintro m ⟨⟩; decide⟩ (by decide)⟩

end DroneBridge
