import DroneBridge.Auth.Layout
import DroneBridge.Auth.Session

/-!
# Authentication and session request, from the bytes of the server

`authenticate` and `requestSession` read the server's replies, parse them, store the session of a
success reply, mark the client connected and log the start of the stored token. What the disk and
the network answer is an argument; the bytes the server sends are among it.

The parsers accept tokens of any length. The log line takes the first twenty bytes of the token
without looking at its length, which `truncateToken`, used for the old token a few lines before,
does. So a success reply with a shorter token is stored and then ends the process.
-/

namespace DroneBridge

/-- The first `n` bytes of a string; a shorter string is sliced out of range. -/
def sliceTo (n : ℕ) (s : List UInt8) : Outcome (List UInt8) :=
  if n ≤ s.length then .ok (s.take n) else .outOfRange

/-- The start of a token, for the log. -/
def truncateToken (token : List UInt8) : Outcome (List UInt8) :=
  if token = [] then .ok "none".toUTF8.toList
  else if 20 < token.length then (sliceTo 20 token).map (· ++ "...".toUTF8.toList)
  else .ok token

theorem truncateToken_inRange (token : List UInt8) : truncateToken token ≠ .outOfRange := by
  rw [truncateToken]
  split
  · exact nofun
  · split
    · rename_i hlong
      rw [sliceTo, if_pos (Nat.le_of_lt hlong)]
      exact nofun
    · exact nofun

/-- The last lines of both functions: the token is logged by its first twenty bytes. -/
def logToken (s : SessionState) : Outcome Unit := (sliceTo 20 s.sessionToken).map fun _ ↦ ()

theorem logToken_eq_outOfRange {s : SessionState} :
    logToken s = .outOfRange ↔ s.sessionToken.length < 20 := by
  rw [logToken, Outcome.map_eq_outOfRange, sliceTo, ite_eq_right_iff]
  simp

theorem logToken_eq_ok {s : SessionState} (h : 20 ≤ s.sessionToken.length) :
    logToken s = .ok () := by
  rw [logToken, sliceTo, if_pos h]
  rfl

/-- The session of a success reply is stored, then its token logged. An error leaves the session as
it was. -/
def storeAndLog {α : Type} (reply : Outcome α) (store : α → SessionState) (s : SessionState) :
    Outcome Unit × SessionState :=
  match reply with
  | .ok ack => (logToken (store ack), store ack)
  | .err text => (.err text, s)
  | .outOfRange => (.outOfRange, s)

section StoreAndLog

variable {α : Type} {reply : Outcome α} {store : α → SessionState} {s : SessionState}

theorem storeAndLog_inRange_iff (hreply : reply ≠ .outOfRange) :
    (storeAndLog reply store s).1 ≠ .outOfRange ↔
      ∀ ack, reply = .ok ack → 20 ≤ (store ack).sessionToken.length := by
  rcases reply with ack | text | _
  · rw [storeAndLog, ne_eq, logToken_eq_outOfRange, Nat.not_lt]
    exact ⟨fun h _ hack ↦ Outcome.ok.inj hack ▸ h, fun h ↦ h ack rfl⟩
  · exact ⟨fun _ _ ↦ nofun, fun _ ↦ nofun⟩
  · exact absurd rfl hreply

theorem storeAndLog_result (hreply : (storeAndLog reply store s).1 ≠ .outOfRange) :
    (∃ text, storeAndLog reply store s = (.err text, s)) ∨
      ∃ ack, reply = .ok ack ∧ storeAndLog reply store s = (.ok (), store ack) := by
  rcases reply with ack | text | _
  · rw [storeAndLog, ne_eq, logToken_eq_outOfRange, Nat.not_lt] at hreply
    exact .inr ⟨ack, rfl, by rw [storeAndLog, logToken_eq_ok hreply]⟩
  · exact .inl ⟨text, rfl⟩
  · exact absurd rfl hreply

end StoreAndLog

/-! ## Authentication -/

/-- What the disk and the network answer during one authentication. -/
structure AuthAnswers where
  /-- A secret in memory counts as loaded. -/
  loadSecret : Except String Unit
  /-- A connection that is reused counts as dialled. -/
  dial : Except String Unit
  writeInit : Except String Unit
  readChallenge : Except String (List UInt8)
  writeResponse : Except String Unit
  readAck : Except String (List UInt8)

/-- The reply of the authentication, up to the first error. -/
def authReply (a : AuthAnswers) : Outcome (List UInt8) := do
  Outcome.ofExcept (fun e ↦ "failed to load secret key (drone not registered?): " ++ e ++
    ". Run with --register first") a.loadSecret
  Outcome.ofExcept ("connection failed: " ++ ·) a.dial
  Outcome.ofExcept ("failed to send AUTH_INIT: " ++ ·) a.writeInit
  let challenge ← Outcome.ofExcept ("failed to receive AUTH_CHALLENGE: " ++ ·) a.readChallenge
  let _ ← (parseAuthChallenge challenge).mapErr ("failed to parse AUTH_CHALLENGE: " ++ ·)
  Outcome.ofExcept ("failed to send AUTH_RESPONSE: " ++ ·) a.writeResponse
  Outcome.ofExcept ("failed to receive AUTH_ACK: " ++ ·) a.readAck

def checkAuthAck (data : List UInt8) : Outcome AuthAck := do
  let ack ← (parseAuthAck data).mapErr ("failed to parse AUTH_ACK: " ++ ·)
  if ack.result ≠ resultSuccess then
    .err ("authentication failed (error=" ++ toString ack.errorCode ++ ", wait=" ++
      toString ack.waitSec ++ "s)")
  else if ack.sessionToken = [] then
    .err "authentication successful but no session token received"
  else return ack

/-- The session of a success reply is stored, and the client is marked connected at `now`. -/
def storeAuth (s : SessionState) (ack : AuthAck) (now : ℕ) : SessionState :=
  (s.storeSession ack.sessionToken ack.expiresAt ack.interval).markConnected now

def authenticate (a : AuthAnswers) (s : SessionState) (now : ℕ) : Outcome Unit × SessionState :=
  storeAndLog (authReply a >>= checkAuthAck) (storeAuth s · now) s

/-! ## Session request -/

structure SessionAnswers where
  write : Except String Unit
  read : Except String (List UInt8)

def sessionReply (q : SessionAnswers) (oldToken : List UInt8) : Outcome (List UInt8) := do
  Outcome.ofExcept ("failed to send SESSION_NEW: " ++ ·) q.write
  let _ ← truncateToken oldToken
  Outcome.ofExcept ("failed to receive SESSION_ACK: " ++ ·) q.read

def checkSessionAck (data : List UInt8) : Outcome SessionAck := do
  let ack ← (parseSessionAck data).mapErr ("failed to parse SESSION_ACK: " ++ ·)
  if ack.result ≠ resultSuccess then
    .err ("session request failed (error=" ++ toString ack.errorCode ++ ")")
  else return ack

def storeSessionAck (s : SessionState) (ack : SessionAck) (now : ℕ) : SessionState :=
  (s.storeSession ack.token ack.expiresAt ack.interval).markConnected now

def requestSession (q : SessionAnswers) (s : SessionState) (now : ℕ) :
    Outcome Unit × SessionState :=
  storeAndLog (sessionReply q s.sessionToken >>= checkSessionAck) (storeSessionAck s · now) s

/-! ## Which replies are accepted -/

/-- The reply is accepted exactly when it starts with a success message with a token. -/
theorem checkAuthAck_eq_ok {data : List UInt8} {m : AuthAck} :
    checkAuthAck data = .ok m ↔
      m.sessionToken ≠ [] ∧ m.Valid ∧ ∃ rest, data = m.enc ++ rest := by
  rw [← authAck_exact.ok_iff, checkAuthAck, Outcome.bind_eq_ok]
  constructor
  · rintro ⟨ack, hack, hif⟩
    rw [Outcome.mapErr_eq_ok] at hack
    split at hif
    · exact nomatch hif
    · split at hif
      · exact nomatch hif
      · obtain rfl := Outcome.ok.inj hif
        exact ⟨‹_›, hack, not_ne_iff.mp ‹_›⟩
  · rintro ⟨htoken, hack, hresult⟩
    refine ⟨m, Outcome.mapErr_eq_ok.mpr hack, ?_⟩
    rw [if_neg (not_ne_iff.mpr hresult), if_neg htoken]
    rfl

theorem checkSessionAck_eq_ok {data : List UInt8} {m : SessionAck} :
    checkSessionAck data = .ok m ↔ m.Valid ∧ ∃ rest, data = m.enc ++ rest := by
  rw [← sessionAck_exact.ok_iff, checkSessionAck, Outcome.bind_eq_ok]
  constructor
  · rintro ⟨ack, hack, hif⟩
    rw [Outcome.mapErr_eq_ok] at hack
    split at hif
    · exact nomatch hif
    · obtain rfl := Outcome.ok.inj hif
      exact ⟨hack, not_ne_iff.mp ‹_›⟩
  · rintro ⟨hack, hresult⟩
    refine ⟨m, Outcome.mapErr_eq_ok.mpr hack, ?_⟩
    rw [if_neg (not_ne_iff.mpr hresult)]
    rfl

/-! ## Up to the log line nothing is out of range -/

theorem checkAuthAck_inRange (data : List UInt8) : checkAuthAck data ≠ .outOfRange := by
  refine Outcome.bind_ne_outOfRange ?_ fun ack ↦ ?_
  · rw [ne_eq, Outcome.mapErr_eq_outOfRange]
    exact authAck_exact.inRange data
  · split
    · exact nofun
    · split <;> exact nofun

theorem checkSessionAck_inRange (data : List UInt8) : checkSessionAck data ≠ .outOfRange := by
  refine Outcome.bind_ne_outOfRange ?_ fun ack ↦ ?_
  · rw [ne_eq, Outcome.mapErr_eq_outOfRange]
    exact sessionAck_exact.inRange data
  · split <;> exact nofun

theorem authReply_inRange (a : AuthAnswers) : authReply a ≠ .outOfRange := by
  refine Outcome.bind_ne_outOfRange (Outcome.ofExcept_ne_outOfRange _ _) fun _ ↦ ?_
  refine Outcome.bind_ne_outOfRange (Outcome.ofExcept_ne_outOfRange _ _) fun _ ↦ ?_
  refine Outcome.bind_ne_outOfRange (Outcome.ofExcept_ne_outOfRange _ _) fun _ ↦ ?_
  refine Outcome.bind_ne_outOfRange (Outcome.ofExcept_ne_outOfRange _ _) fun challenge ↦ ?_
  refine Outcome.bind_ne_outOfRange ?_ fun _ ↦ ?_
  · rw [ne_eq, Outcome.mapErr_eq_outOfRange]
    exact authChallenge_exact.inRange challenge
  · exact Outcome.bind_ne_outOfRange (Outcome.ofExcept_ne_outOfRange _ _) fun _ ↦
      Outcome.ofExcept_ne_outOfRange _ _

theorem sessionReply_inRange (q : SessionAnswers) (oldToken : List UInt8) :
    sessionReply q oldToken ≠ .outOfRange := by
  refine Outcome.bind_ne_outOfRange (Outcome.ofExcept_ne_outOfRange _ _) fun _ ↦ ?_
  exact Outcome.bind_ne_outOfRange (truncateToken_inRange oldToken) fun _ ↦
    Outcome.ofExcept_ne_outOfRange _ _

/-! ## The functions as a whole -/

theorem bind_check_eq_ok {α : Type} {reply : Outcome (List UInt8)} {check : List UInt8 → Outcome α}
    {m : α} {accepted : Prop} {packet : List UInt8}
    (hcheck : ∀ data, check data = .ok m ↔ accepted ∧ ∃ rest, data = packet ++ rest) :
    reply >>= check = .ok m ↔ accepted ∧ ∃ rest, reply = .ok (packet ++ rest) := by
  simp only [Outcome.bind_eq_ok, hcheck]
  constructor
  · rintro ⟨data, hdata, hm, rest, rfl⟩
    exact ⟨hm, rest, hdata⟩
  · rintro ⟨hm, rest, hdata⟩
    exact ⟨_, hdata, hm, rest, rfl⟩

section

variable {a : AuthAnswers} {q : SessionAnswers} {s : SessionState} {now : ℕ}

theorem authReply_accepted_iff {m : AuthAck} :
    authReply a >>= checkAuthAck = .ok m ↔
      (m.sessionToken ≠ [] ∧ m.Valid) ∧ ∃ rest, authReply a = .ok (m.enc ++ rest) :=
  bind_check_eq_ok fun _ ↦ checkAuthAck_eq_ok.trans and_assoc.symm

theorem sessionReply_accepted_iff {m : SessionAck} {oldToken : List UInt8} :
    sessionReply q oldToken >>= checkSessionAck = .ok m ↔
      m.Valid ∧ ∃ rest, sessionReply q oldToken = .ok (m.enc ++ rest) :=
  bind_check_eq_ok fun _ ↦ checkSessionAck_eq_ok

theorem authenticate_inRange_iff :
    (authenticate a s now).1 ≠ .outOfRange ↔
      ∀ (m : AuthAck) (rest : List UInt8), m.Valid → authReply a = .ok (m.enc ++ rest) →
        m.sessionToken = [] ∨ 20 ≤ m.sessionToken.length := by
  rw [authenticate, storeAndLog_inRange_iff
    (Outcome.bind_ne_outOfRange (authReply_inRange a) checkAuthAck_inRange)]
  constructor
  · intro h m rest hm hdata
    by_cases htoken : m.sessionToken = []
    · exact .inl htoken
    · exact .inr (h m (authReply_accepted_iff.mpr ⟨⟨htoken, hm⟩, rest, hdata⟩))
  · intro h m hack
    obtain ⟨⟨htoken, hm⟩, rest, hdata⟩ := authReply_accepted_iff.mp hack
    exact (h m rest hm hdata).resolve_left htoken

theorem authenticate_result (h : (authenticate a s now).1 ≠ .outOfRange) :
    (∃ text, authenticate a s now = (.err text, s)) ∨
      ∃ (m : AuthAck) (rest : List UInt8), m.Valid ∧ authReply a = .ok (m.enc ++ rest) ∧
        authenticate a s now = (.ok (), storeAuth s m now) := by
  obtain herr | ⟨m, hack, hstore⟩ := storeAndLog_result h
  · exact .inl herr
  · obtain ⟨⟨-, hm⟩, rest, hdata⟩ := authReply_accepted_iff.mp hack
    exact .inr ⟨m, rest, hm, hdata, hstore⟩

theorem requestSession_inRange_iff :
    (requestSession q s now).1 ≠ .outOfRange ↔
      ∀ (m : SessionAck) (rest : List UInt8), m.Valid →
        sessionReply q s.sessionToken = .ok (m.enc ++ rest) → 20 ≤ m.token.length := by
  rw [requestSession, storeAndLog_inRange_iff
    (Outcome.bind_ne_outOfRange (sessionReply_inRange q s.sessionToken) checkSessionAck_inRange)]
  constructor
  · intro h m rest hm hdata
    exact h m (sessionReply_accepted_iff.mpr ⟨hm, rest, hdata⟩)
  · intro h m hack
    obtain ⟨hm, rest, hdata⟩ := sessionReply_accepted_iff.mp hack
    exact h m rest hm hdata

theorem requestSession_result (h : (requestSession q s now).1 ≠ .outOfRange) :
    (∃ text, requestSession q s now = (.err text, s)) ∨
      ∃ (m : SessionAck) (rest : List UInt8), m.Valid ∧
        sessionReply q s.sessionToken = .ok (m.enc ++ rest) ∧
        requestSession q s now = (.ok (), storeSessionAck s m now) := by
  obtain herr | ⟨m, hack, hstore⟩ := storeAndLog_result h
  · exact .inl herr
  · obtain ⟨hm, rest, hdata⟩ := sessionReply_accepted_iff.mp hack
    exact .inr ⟨m, rest, hm, hdata, hstore⟩

end

/-- **Sliced tokens.** `authenticate` stays in range exactly when it is not told to store a token of
one to nineteen bytes, and `requestSession` exactly when it is not told to store one of less than
twenty. -/
theorem handshake_inRange_iff (a : AuthAnswers) (q : SessionAnswers) (s : SessionState) (now : ℕ) :
    ((authenticate a s now).1 ≠ .outOfRange ↔
      ∀ (m : AuthAck) (rest : List UInt8), m.Valid → authReply a = .ok (m.enc ++ rest) →
        m.sessionToken = [] ∨ 20 ≤ m.sessionToken.length) ∧
    ((authenticate a s now).1 ≠ .outOfRange →
      (∃ text, authenticate a s now = (.err text, s)) ∨
        ∃ (m : AuthAck) (rest : List UInt8), m.Valid ∧ authReply a = .ok (m.enc ++ rest) ∧
          authenticate a s now = (.ok (), storeAuth s m now)) ∧
    ((requestSession q s now).1 ≠ .outOfRange ↔
      ∀ (m : SessionAck) (rest : List UInt8), m.Valid →
        sessionReply q s.sessionToken = .ok (m.enc ++ rest) → 20 ≤ m.token.length) ∧
    ((requestSession q s now).1 ≠ .outOfRange →
      (∃ text, requestSession q s now = (.err text, s)) ∨
        ∃ (m : SessionAck) (rest : List UInt8), m.Valid ∧
          sessionReply q s.sessionToken = .ok (m.enc ++ rest) ∧
          requestSession q s now = (.ok (), storeSessionAck s m now)) :=
  ⟨authenticate_inRange_iff, authenticate_result, requestSession_inRange_iff,
    requestSession_result⟩

/-- A server that grants the token `abc`, and one that grants the empty token: the first ends the
process in `authenticate`, the second in `requestSession`. -/
theorem short_tokens_sliced :
    (authenticate
      { loadSecret := .ok (), dial := .ok (), writeInit := .ok ()
        readChallenge := .ok [0x02, 0x01, 0x00, 0x7f, 0x0a, 0x00]
        writeResponse := .ok ()
        readAck := .ok [0x04, 0x00, 0x03, 0x00, 0x61, 0x62, 0x63, 0x00, 0xca, 0x9a, 0x3b, 0x00,
          0x00, 0x00, 0x00, 0x1e, 0x00] } .new 1).1 = .outOfRange ∧
    (requestSession
      { write := .ok ()
        read := .ok [0x11, 0x00, 0x00, 0x00, 0x00, 0xca, 0x9a, 0x3b, 0x00, 0x00, 0x00, 0x00, 0x1e,
          0x00] } .new 1).1 = .outOfRange := by
  constructor <;> decide

end DroneBridge
