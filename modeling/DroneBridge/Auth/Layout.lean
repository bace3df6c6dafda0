import DroneBridge.Auth.Protocol

/-!
# The parsers are exact

Each parser of a challenge or acknowledgement returns a success message exactly on the documented
layout of that message: the type, the result where there is one, then the fields in order, numbers
in little-endian order and strings behind a 16-bit length. Bytes behind the message are ignored, no
byte outside the packet is read, and no proper part of a message passes for one.

The layout of a parser is computed along its text with the rules of `ReadsOn`; what is left for
each message is to see that the computed layout is the documented one.
-/

namespace DroneBridge

/-! ## Shared parts -/

theorem reads_messageType (type : UInt8) :
    Reads (messageType type) fun _ bs ↦ bs = [type] := by
  have hread := (reads_u8 "packet too short").bind fun got ↦
    ReadsOn.ite (c := got ≠ type) (fun _ ↦ reads_fail (invalidMessageType got type))
      fun _ ↦ reads_pure ()
  refine Reads.congr hread fun a bs ↦ ?_
  constructor
  · rintro ⟨got, bs₁, bs₂, rfl, hgot, rfl⟩
    by_cases htype : got = type
    · rw [if_neg (not_not.mpr htype)] at hgot
      rw [hgot.2, htype]
      rfl
    · rw [if_pos htype] at hgot
      exact hgot.elim
  · rintro rfl
    refine ⟨type, [type], [], rfl, ?_, rfl⟩
    rw [if_neg (not_not.mpr rfl)]
    exact ⟨rfl, rfl⟩

theorem reads_ackHead (type : UInt8) :
    Reads (ackHead type) fun result bs ↦ bs = [type, result] := by
  refine Reads.congr ((reads_messageType type).bind fun _ ↦ reads_u8 _) fun result bs ↦ ?_
  constructor
  · rintro ⟨-, bs₁, bs₂, rfl, rfl, rfl⟩
    rfl
  · rintro rfl
    exact ⟨(), [type], [result], rfl, rfl, rfl⟩

theorem vpnAckHead_append (pre rem : List UInt8) :
    vpnAckHead (pre ++ rem) pre.length =
      match rem with
      | [] | [_] => .err "vpn ack packet too short"
      | type :: result :: _ =>
        if type ≠ msgVPNProvisionAck then
          .err ("invalid msg type: 0x" ++ hex02 type ++ " (expected 0xB1)")
        else .ok (result, pre.length + 2) := by
  rw [vpnAckHead, Reader.bind_apply, Reader.require_append]
  rcases rem with _ | ⟨type, _ | ⟨result, rem⟩⟩
  · rfl
  · rfl
  · rw [if_neg (by simp)]
    dsimp only
    rw [Reader.bind_apply, Reader.index_append]
    dsimp only [List.head?_cons]
    by_cases htype : type = msgVPNProvisionAck
    · rw [if_neg (not_not.mpr htype), if_neg (not_not.mpr htype)]
      have hindex := Reader.index_append (pre ++ [type]) (result :: rem)
      rw [List.append_assoc, List.length_append] at hindex
      rw [Reader.bind_apply]
      dsimp only [Reader.skip]
      rw [Reader.bind_apply]
      exact hindex ▸ rfl
    · rw [if_pos htype, if_pos htype]
      rfl

theorem reads_vpnAckHead :
    Reads vpnAckHead fun result bs ↦ bs = [msgVPNProvisionAck, result] := by
  refine ⟨fun pre rem ↦ ?_, fun pre rem result offset _ ↦ ?_⟩
  · rw [vpnAckHead_append]
    split
    · simp
    · simp
    · split <;> simp
  · rw [vpnAckHead_append]
    rcases rem with _ | ⟨type, _ | ⟨result', rem⟩⟩
    · simp
    · simp
    · dsimp only
      by_cases htype : type = msgVPNProvisionAck
      · rw [if_neg (not_not.mpr htype), Outcome.ok.injEq, Prod.mk.injEq]
        constructor
        · rintro ⟨rfl, rfl⟩
          exact ⟨_, rfl, ⟨rem, by rw [htype]; rfl⟩, rfl⟩
        · rintro ⟨bs, rfl, hpre, rfl⟩
          rw [List.cons_prefix_cons, List.cons_prefix_cons] at hpre
          exact ⟨hpre.2.1.symm, rfl⟩
      · rw [if_pos htype]
        refine iff_of_false (by simp) ?_
        rintro ⟨bs, rfl, hpre, -⟩
        rw [List.cons_prefix_cons] at hpre
        exact htype hpre.1.symm

theorem peels_failedWith {α : Type} (mk : UInt8 → α) :
    Peels (failedWith mk) fun rem ↦ (mk (peelU8 rem).1, (peelU8 rem).2) :=
  peels_optionalU8.bind fun errorCode ↦ peels_pure (mk errorCode)

theorem peels_failedAuth (result : UInt8) :
    Peels (failedAuth result) fun rem ↦
      (AuthAck.failure result (peelU8 rem).1 (peelU16 (peelU8 rem).2).1,
        (peelU16 (peelU8 rem).2).2) :=
  peels_optionalU8.bind fun errorCode ↦ peels_optionalU16.bind fun waitSec ↦
    peels_pure (AuthAck.failure result errorCode waitSec)

theorem readsOn_failedWith {α : Type} {P : α → Prop} {mk : UInt8 → α} (h : ∀ code, ¬P (mk code)) :
    ReadsOn P (failedWith mk) fun _ _ ↦ False :=
  (peels_failedWith mk).readsOn_none fun _ ↦ h _

/-- On success, an acknowledgement is its head with a zero result and what success reads. -/
theorem readsOn_readAck {α : Type} {P : α → Prop} {head : Reader UInt8} {type : UInt8}
    {failed : UInt8 → Reader α} {succeeded : Reader α} {L : α → List UInt8 → Prop}
    (hhead : Reads head fun result bs ↦ bs = [type, result])
    (hfailed : ∀ result, result ≠ resultSuccess → ReadsOn P (failed result) fun _ _ ↦ False)
    (hsucceeded : ReadsOn P succeeded L) :
    ReadsOn P (readAck head failed succeeded)
      fun m bs ↦ ∃ tail, L m tail ∧ bs = type :: resultSuccess :: tail := by
  have hread := hhead.bind fun result ↦ ReadsOn.ite (hfailed result) fun _ ↦ hsucceeded
  refine hread.congr fun m _ bs ↦ ?_
  constructor
  · rintro ⟨result, bs₁, bs₂, rfl, hL, rfl⟩
    by_cases hresult : result = resultSuccess
    · rw [if_neg (not_not.mpr hresult)] at hL
      exact ⟨bs₂, hL, by rw [hresult]; rfl⟩
    · rw [if_pos hresult] at hL
      exact hL.elim
  · rintro ⟨tail, hL, rfl⟩
    refine ⟨resultSuccess, [type, resultSuccess], tail, rfl, ?_, rfl⟩
    rwa [if_neg (not_not.mpr rfl)]

/-- An acknowledgement is exact when what success reads is its encoding behind the head. -/
theorem readAck_exact {α : Type} {success valid : α → Prop} {enc : α → List UInt8}
    {head : Reader UInt8} {type : UInt8} {failed : UInt8 → Reader α} {succeeded : Reader α}
    (hhead : Reads head fun result bs ↦ bs = [type, result])
    (hfailed : ∀ result, result ≠ resultSuccess → ReadsOn success (failed result) fun _ _ ↦ False)
    (hsucceeded : Reads succeeded fun m tail ↦ valid m ∧ enc m = type :: resultSuccess :: tail)
    (henc : ∀ m, ∃ tail, enc m = type :: resultSuccess :: tail)
    (hvalid : ∀ m, valid m → success m) :
    ExactLayout (readAck head failed succeeded).parse success valid enc := by
  refine ((readsOn_readAck hhead hfailed (hsucceeded.on success)).congr
    fun m _ bs ↦ ?_).exactLayout hvalid
  constructor
  · rintro ⟨tail, ⟨hm, htail⟩, rfl⟩
    exact ⟨hm, htail.symm⟩
  · rintro ⟨hm, rfl⟩
    obtain ⟨tail, htail⟩ := henc m
    exact ⟨tail, ⟨hm, htail⟩, htail⟩

/-! ## Challenges -/

/-- `[TYPE:1][NONCE_LEN:2][NONCE:var][TIMEOUT:2]` -/
def encChallenge (type : UInt8) (nonce : List UInt8) (timeoutSec : UInt16) : List UInt8 :=
  type :: (putString16 nonce ++ leBytes 2 timeoutSec.toNat)

def AuthChallenge.Valid (m : AuthChallenge) : Prop := m.nonce.length ≤ 65535

def AuthChallenge.enc (m : AuthChallenge) : List UInt8 :=
  encChallenge msgAuthChallenge m.nonce m.timeoutSec

def RegisterChallenge.Valid (m : RegisterChallenge) : Prop := m.nonce.length ≤ 65535

def RegisterChallenge.enc (m : RegisterChallenge) : List UInt8 :=
  encChallenge msgRegisterChallenge m.nonce m.timeoutSec

theorem reads_readChallenge (type : UInt8) :
    Reads (readChallenge type)
      fun c bs ↦ c.1.length ≤ 65535 ∧ bs = encChallenge type c.1 c.2 := by
  have hread := (reads_messageType type).bind fun _ ↦
    (reads_string16 "packet too short for nonce length" "packet too short for nonce data").bind
      fun nonce ↦ (reads_u16 "packet too short for timeout").bind
        fun timeoutSec ↦ reads_pure (nonce, timeoutSec)
  refine Reads.congr hread fun c bs ↦ ?_
  rcases c with ⟨nonce, timeoutSec⟩
  simp [and_assoc, encChallenge]

theorem reads_authChallenge :
    Reads readAuthChallenge fun m bs ↦ m.Valid ∧ bs = m.enc := by
  have hread := (reads_readChallenge msgAuthChallenge).bind fun c ↦
    reads_pure (AuthChallenge.mk c.1 c.2)
  refine Reads.congr hread fun m bs ↦ ?_
  rcases m with ⟨nonce, timeoutSec⟩
  simp [and_assoc, AuthChallenge.Valid, AuthChallenge.enc]

theorem authChallenge_exact :
    ExactLayout parseAuthChallenge (fun _ ↦ True) AuthChallenge.Valid AuthChallenge.enc :=
  reads_authChallenge.exactLayout fun _ _ ↦ trivial

theorem reads_registerChallenge :
    Reads readRegisterChallenge fun m bs ↦ m.Valid ∧ bs = m.enc := by
  have hread := (reads_readChallenge msgRegisterChallenge).bind fun c ↦
    reads_pure (RegisterChallenge.mk c.1 c.2)
  refine Reads.congr hread fun m bs ↦ ?_
  rcases m with ⟨nonce, timeoutSec⟩
  simp [and_assoc, RegisterChallenge.Valid, RegisterChallenge.enc]

theorem registerChallenge_exact :
    ExactLayout parseRegisterChallenge (fun _ ↦ True) RegisterChallenge.Valid
      RegisterChallenge.enc :=
  reads_registerChallenge.exactLayout fun _ _ ↦ trivial

/-! ## Acknowledgements

A valid success message has a zero result, and zero in the fields that the success layout does not
carry. -/

@[mk_iff]
structure AuthAck.Valid (m : AuthAck) : Prop where
  sessionToken : m.sessionToken.length ≤ 65535
  result : m.result = resultSuccess
  errorCode : m.errorCode = 0
  waitSec : m.waitSec = 0
  newSecretKey : m.newSecretKey = []

/-- `[TYPE:1][RESULT:1][SESSION_TOKEN_LEN:2][SESSION_TOKEN:var][EXPIRES_AT:8][INTERVAL:2]` -/
def AuthAck.enc (m : AuthAck) : List UInt8 :=
  msgAuthAck :: resultSuccess ::
    (putString16 m.sessionToken ++ (leBytes 8 m.expiresAt.toNat ++ leBytes 2 m.interval.toNat))

theorem reads_authSuccess :
    Reads readAuthSuccess
      fun m tail ↦ m.Valid ∧ m.enc = msgAuthAck :: resultSuccess :: tail := by
  have hread := (reads_string16 "packet too short for session token length"
    "packet too short for session token").bind fun sessionToken ↦
      (reads_u64 "packet too short for expires_at").bind fun expiresAt ↦
        (reads_u16 "packet too short for interval").bind fun interval ↦
          reads_pure (AuthAck.mk resultSuccess 0 0 [] sessionToken expiresAt interval)
  refine Reads.congr hread fun m tail ↦ ?_
  rcases m with ⟨result, errorCode, waitSec, newSecretKey, sessionToken, expiresAt, interval⟩
  simp [and_assoc, AuthAck.enc, AuthAck.valid_iff, eq_comm]

theorem authAck_exact :
    ExactLayout parseAuthAck (fun m ↦ m.result = resultSuccess) AuthAck.Valid AuthAck.enc :=
  readAck_exact (reads_ackHead msgAuthAck)
    (fun result hresult ↦ (peels_failedAuth result).readsOn_none fun _ ↦ hresult)
    reads_authSuccess (fun _ ↦ ⟨_, rfl⟩) fun _ hm ↦ hm.result

@[mk_iff]
structure SessionAck.Valid (m : SessionAck) : Prop where
  token : m.token.length ≤ 65535
  result : m.result = resultSuccess
  errorCode : m.errorCode = 0

/-- `[TYPE:1][RESULT:1][TOKEN_LEN:2][TOKEN:var][EXPIRES_AT:8][INTERVAL:2]` -/
def SessionAck.enc (m : SessionAck) : List UInt8 :=
  msgSessionAck :: resultSuccess ::
    (putString16 m.token ++ (leBytes 8 m.expiresAt.toNat ++ leBytes 2 m.interval.toNat))

theorem reads_sessionSuccess :
    Reads readSessionSuccess
      fun m tail ↦ m.Valid ∧ m.enc = msgSessionAck :: resultSuccess :: tail := by
  have hread := (reads_string16 "packet too short for token length"
    "packet too short for token data").bind fun token ↦
      (reads_u64 "packet too short for expires_at").bind fun expiresAt ↦
        (reads_u16 "packet too short for interval").bind fun interval ↦
          reads_pure (SessionAck.mk resultSuccess 0 token expiresAt interval)
  refine Reads.congr hread fun m tail ↦ ?_
  rcases m with ⟨result, errorCode, token, expiresAt, interval⟩
  simp [and_assoc, SessionAck.enc, SessionAck.valid_iff, eq_comm]

theorem sessionAck_exact :
    ExactLayout parseSessionAck (fun m ↦ m.result = resultSuccess) SessionAck.Valid
      SessionAck.enc :=
  readAck_exact (reads_ackHead msgSessionAck)
    (fun _ hresult ↦ readsOn_failedWith fun _ ↦ hresult)
    reads_sessionSuccess (fun _ ↦ ⟨_, rfl⟩) fun _ hm ↦ hm.result

@[mk_iff]
structure SessionRefreshAck.Valid (m : SessionRefreshAck) : Prop where
  result : m.result = resultSuccess
  errorCode : m.errorCode = 0

/-- `[TYPE:1][RESULT:1][EXPIRES_AT:8][INTERVAL:2]` -/
def SessionRefreshAck.enc (m : SessionRefreshAck) : List UInt8 :=
  msgSessionRefreshAck :: resultSuccess ::
    (leBytes 8 m.expiresAt.toNat ++ leBytes 2 m.interval.toNat)

theorem reads_sessionRefreshSuccess :
    Reads readSessionRefreshSuccess
      fun m tail ↦ m.Valid ∧ m.enc = msgSessionRefreshAck :: resultSuccess :: tail := by
  have hread := (reads_u64 "packet too short for expires_at").bind fun expiresAt ↦
    (reads_u16 "packet too short for interval").bind fun interval ↦
      reads_pure (SessionRefreshAck.mk resultSuccess 0 expiresAt interval)
  refine Reads.congr hread fun m tail ↦ ?_
  rcases m with ⟨result, errorCode, expiresAt, interval⟩
  simp [and_assoc, SessionRefreshAck.enc, SessionRefreshAck.valid_iff, eq_comm]

theorem sessionRefreshAck_exact :
    ExactLayout parseSessionRefreshAck (fun m ↦ m.result = resultSuccess) SessionRefreshAck.Valid
      SessionRefreshAck.enc :=
  readAck_exact (reads_ackHead msgSessionRefreshAck)
    (fun _ hresult ↦ readsOn_failedWith fun _ ↦ hresult)
    reads_sessionRefreshSuccess (fun _ ↦ ⟨_, rfl⟩) fun _ hm ↦ hm.result

@[mk_iff]
structure RegisterAck.Valid (m : RegisterAck) : Prop where
  secretKey : m.secretKey.length ≤ 65535
  sessionToken : m.sessionToken.length ≤ 65535
  result : m.result = resultSuccess
  errorCode : m.errorCode = 0

/-- `[TYPE:1][RESULT:1][SECRET_KEY_LEN:2][SECRET_KEY:var][SESSION_TOKEN_LEN:2][SESSION_TOKEN:var]`,
then `[EXPIRES_AT:8][INTERVAL:2]` -/
def RegisterAck.enc (m : RegisterAck) : List UInt8 :=
  msgRegisterAck :: resultSuccess ::
    (putString16 m.secretKey ++ (putString16 m.sessionToken ++
      (leBytes 8 m.expiresAt.toNat ++ leBytes 2 m.interval.toNat)))

theorem reads_registerSuccess :
    Reads readRegisterSuccess
      fun m tail ↦ m.Valid ∧ m.enc = msgRegisterAck :: resultSuccess :: tail := by
  have hread := (reads_string16 "failed to read secret key: buffer too short for length prefix"
    "failed to read secret key: buffer too short for string data").bind fun secretKey ↦
      (reads_string16 "failed to read session token: buffer too short for length prefix"
        "failed to read session token: buffer too short for string data").bind fun sessionToken ↦
          (reads_u64 "packet too short for expires_at").bind fun expiresAt ↦
            (reads_u16 "packet too short for interval").bind fun interval ↦
              reads_pure (RegisterAck.mk resultSuccess 0 secretKey sessionToken expiresAt interval)
  refine Reads.congr hread fun m tail ↦ ?_
  rcases m with ⟨result, errorCode, secretKey, sessionToken, expiresAt, interval⟩
  simp [and_assoc, RegisterAck.enc, RegisterAck.valid_iff, eq_comm]

theorem registerAck_exact :
    ExactLayout parseRegisterAck (fun m ↦ m.result = resultSuccess) RegisterAck.Valid
      RegisterAck.enc :=
  readAck_exact (reads_ackHead msgRegisterAck)
    (fun _ hresult ↦ readsOn_failedWith fun _ ↦ hresult)
    reads_registerSuccess (fun _ ↦ ⟨_, rfl⟩) fun _ hm ↦ hm.result

@[mk_iff]
structure VPNProvisionAck.Valid (m : VPNProvisionAck) : Prop where
  assignedIP : m.assignedIP.length ≤ 65535
  serverPublicKey : m.serverPublicKey.length ≤ 65535
  serverEndpoint : m.serverEndpoint.length ≤ 65535
  result : m.result = resultSuccess
  errorCode : m.errorCode = 0

/-- `[TYPE:1][RESULT:1]`, then the three strings behind their lengths. -/
def VPNProvisionAck.enc (m : VPNProvisionAck) : List UInt8 :=
  msgVPNProvisionAck :: resultSuccess ::
    (putString16 m.assignedIP ++ (putString16 m.serverPublicKey ++ putString16 m.serverEndpoint))

theorem reads_vpnProvisionSuccess :
    Reads readVPNProvisionSuccess
      fun m tail ↦ m.Valid ∧ m.enc = msgVPNProvisionAck :: resultSuccess :: tail := by
  have hread := (reads_string16 "read AssignedIP: unexpected end of packet"
    "read AssignedIP: string length exceeds packet size").bind fun assignedIP ↦
      (reads_string16 "read ServerPublicKey: unexpected end of packet"
        "read ServerPublicKey: string length exceeds packet size").bind fun serverPublicKey ↦
          (reads_string16 "read ServerEndpoint: unexpected end of packet"
            "read ServerEndpoint: string length exceeds packet size").bind fun serverEndpoint ↦
              reads_pure
                (VPNProvisionAck.mk resultSuccess 0 assignedIP serverPublicKey serverEndpoint)
  refine Reads.congr hread fun m tail ↦ ?_
  rcases m with ⟨result, errorCode, assignedIP, serverPublicKey, serverEndpoint⟩
  simp [and_assoc, VPNProvisionAck.enc, VPNProvisionAck.valid_iff, eq_comm]

theorem vpnProvisionAck_exact :
    ExactLayout parseVPNProvisionAck (fun m ↦ m.result = resultSuccess) VPNProvisionAck.Valid
      VPNProvisionAck.enc :=
  readAck_exact reads_vpnAckHead
    (fun _ hresult ↦ readsOn_failedWith fun _ ↦ hresult)
    reads_vpnProvisionSuccess (fun _ ↦ ⟨_, rfl⟩) fun _ hm ↦ hm.result

/-- **The parsers are exact.** None of the seven reads out of range, and each returns a success
message exactly when the input starts with the encoding of that message. Every challenge is one. -/
theorem success_layouts_exact :
    ExactLayout parseAuthChallenge (fun _ ↦ True) AuthChallenge.Valid AuthChallenge.enc ∧
    ExactLayout parseAuthAck (fun m ↦ m.result = resultSuccess) AuthAck.Valid AuthAck.enc ∧
    ExactLayout parseSessionAck (fun m ↦ m.result = resultSuccess) SessionAck.Valid
      SessionAck.enc ∧
    ExactLayout parseSessionRefreshAck (fun m ↦ m.result = resultSuccess) SessionRefreshAck.Valid
      SessionRefreshAck.enc ∧
    ExactLayout parseRegisterChallenge (fun _ ↦ True) RegisterChallenge.Valid
      RegisterChallenge.enc ∧
    ExactLayout parseRegisterAck (fun m ↦ m.result = resultSuccess) RegisterAck.Valid
      RegisterAck.enc ∧
    ExactLayout parseVPNProvisionAck (fun m ↦ m.result = resultSuccess) VPNProvisionAck.Valid
      VPNProvisionAck.enc :=
  ⟨authChallenge_exact, authAck_exact, sessionAck_exact, sessionRefreshAck_exact,
    registerChallenge_exact, registerAck_exact, vpnProvisionAck_exact⟩

end DroneBridge
