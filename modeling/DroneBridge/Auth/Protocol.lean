import DroneBridge.Lib.Optional

/-!
# The server's replies

The messages the server sends on the authentication connection, and their parsers, as in
`auth/protocol.go`. Go strings are byte strings. Each parser walks over the packet with an offset
and checks the length before it reads; the checks and their error texts are the source's.

A reply starts with its type. Most acknowledgements go on with a result byte: on success the
documented fields follow, on failure an error code that may be missing.
-/

namespace DroneBridge

/-! ## Message types and codes -/

def msgAuthChallenge : UInt8 := 0x02
def msgAuthAck : UInt8 := 0x04
def msgSessionAck : UInt8 := 0x11
def msgSessionRefreshAck : UInt8 := 0x13
def msgAPIKeyResponse : UInt8 := 0x21
def msgAPIKeyRevokeAck : UInt8 := 0x23
def msgAPIKeyStatusResp : UInt8 := 0x25
def msgAPIKeyDeleteAck : UInt8 := 0x27
def msgRegisterChallenge : UInt8 := 0xA1
def msgRegisterAck : UInt8 := 0xA3
def msgVPNProvisionAck : UInt8 := 0xB1

def resultSuccess : UInt8 := 0x00

/-! ## Messages -/

structure AuthChallenge where
  nonce : List UInt8
  timeoutSec : UInt16
  deriving DecidableEq, Repr

structure AuthAck where
  result : UInt8
  errorCode : UInt8
  waitSec : UInt16
  newSecretKey : List UInt8
  sessionToken : List UInt8
  expiresAt : UInt64
  interval : UInt16
  deriving DecidableEq, Repr

structure SessionAck where
  result : UInt8
  errorCode : UInt8
  token : List UInt8
  expiresAt : UInt64
  interval : UInt16
  deriving DecidableEq, Repr

structure SessionRefreshAck where
  result : UInt8
  errorCode : UInt8
  expiresAt : UInt64
  interval : UInt16
  deriving DecidableEq, Repr

structure RegisterChallenge where
  nonce : List UInt8
  timeoutSec : UInt16
  deriving DecidableEq, Repr

structure RegisterAck where
  result : UInt8
  errorCode : UInt8
  secretKey : List UInt8
  sessionToken : List UInt8
  expiresAt : UInt64
  interval : UInt16
  deriving DecidableEq, Repr

structure VPNProvisionAck where
  result : UInt8
  errorCode : UInt8
  assignedIP : List UInt8
  serverPublicKey : List UInt8
  serverEndpoint : List UInt8
  deriving DecidableEq, Repr

structure APIKeyResponse where
  result : UInt8
  errorCode : UInt8
  apiKey : List UInt8
  expiresAt : UInt64
  deriving DecidableEq, Repr

structure APIKeyRevokeAck where
  result : UInt8
  errorCode : UInt8
  deriving DecidableEq, Repr

structure APIKeyStatusResponse where
  hasActiveKey : UInt8
  status : List UInt8
  apiKey : List UInt8
  createdAt : UInt64
  expiresAt : UInt64
  userUUID : List UInt8
  userActivatedAt : UInt64
  deriving DecidableEq, Repr

structure APIKeyDeleteAck where
  result : UInt8
  errorCode : UInt8
  deriving DecidableEq, Repr

/-! ## Parts of parsers -/

def hexChar (n : ℕ) : Char := Char.ofNat (if n < 10 then 48 + n else 87 + n)

/-- Two hexadecimal digits, as `%02x`. -/
def hex02 (b : UInt8) : String := String.ofList [hexChar (b.toNat / 16), hexChar (b.toNat % 16)]

def invalidMessageType (got expected : UInt8) : String :=
  "invalid message type: 0x" ++ hex02 got ++ " (expected 0x" ++ hex02 expected ++ ")"

/-- The first two checks of most parsers: there is a first byte, and it is the type. -/
def messageType (expected : UInt8) : Reader Unit := do
  let got ← Reader.u8 "packet too short"
  if got ≠ expected then Reader.fail (invalidMessageType got expected) else return ()

/-! ## Challenges -/

/-- A challenge of the given type: nonce and timeout. -/
def readChallenge (type : UInt8) : Reader (List UInt8 × UInt16) := do
  messageType type
  let nonce ← Reader.string16 "packet too short for nonce length" "packet too short for nonce data"
  let timeoutSec ← Reader.u16 "packet too short for timeout"
  return (nonce, timeoutSec)

def readAuthChallenge : Reader AuthChallenge := do
  let c ← readChallenge msgAuthChallenge
  return { nonce := c.1, timeoutSec := c.2 }

def parseAuthChallenge : List UInt8 → Outcome AuthChallenge := readAuthChallenge.parse

def readRegisterChallenge : Reader RegisterChallenge := do
  let c ← readChallenge msgRegisterChallenge
  return { nonce := c.1, timeoutSec := c.2 }

def parseRegisterChallenge : List UInt8 → Outcome RegisterChallenge := readRegisterChallenge.parse

/-! ## Acknowledgements -/

/-- Type and result, the head of most acknowledgements. -/
def ackHead (type : UInt8) : Reader UInt8 := do
  messageType type
  Reader.u8 "packet too short for result"

/-- An acknowledgement: after its head, one reader for failure and one for success. -/
def readAck {α : Type} (head : Reader UInt8) (failed : UInt8 → Reader α) (succeeded : Reader α) :
    Reader α := do
  let result ← head
  if result ≠ resultSuccess then failed result else succeeded

/-- What follows the result of most failures: an error code that may be missing. -/
def failedWith {α : Type} (mk : UInt8 → α) : Reader α := do
  let errorCode ← Reader.optionalU8
  return mk errorCode

def AuthAck.failure (result errorCode : UInt8) (waitSec : UInt16) : AuthAck :=
  { result, errorCode, waitSec, newSecretKey := [], sessionToken := [], expiresAt := 0,
    interval := 0 }

/-- A failed authentication may also say how long to wait. -/
def failedAuth (result : UInt8) : Reader AuthAck := do
  let errorCode ← Reader.optionalU8
  let waitSec ← Reader.optionalU16
  return AuthAck.failure result errorCode waitSec

def readAuthSuccess : Reader AuthAck := do
  let sessionToken ← Reader.string16 "packet too short for session token length"
    "packet too short for session token"
  let expiresAt ← Reader.u64 "packet too short for expires_at"
  let interval ← Reader.u16 "packet too short for interval"
  return { result := resultSuccess, errorCode := 0, waitSec := 0, newSecretKey := [],
           sessionToken, expiresAt, interval }

def readAuthAck : Reader AuthAck :=
  readAck (ackHead msgAuthAck) failedAuth readAuthSuccess

def parseAuthAck : List UInt8 → Outcome AuthAck := readAuthAck.parse

def SessionAck.failure (result errorCode : UInt8) : SessionAck :=
  { result, errorCode, token := [], expiresAt := 0, interval := 0 }

def readSessionSuccess : Reader SessionAck := do
  let token ← Reader.string16 "packet too short for token length"
    "packet too short for token data"
  let expiresAt ← Reader.u64 "packet too short for expires_at"
  let interval ← Reader.u16 "packet too short for interval"
  return { result := resultSuccess, errorCode := 0, token, expiresAt, interval }

def readSessionAck : Reader SessionAck :=
  readAck (ackHead msgSessionAck) (fun result ↦ failedWith (SessionAck.failure result))
    readSessionSuccess

def parseSessionAck : List UInt8 → Outcome SessionAck := readSessionAck.parse

def SessionRefreshAck.failure (result errorCode : UInt8) : SessionRefreshAck :=
  { result, errorCode, expiresAt := 0, interval := 0 }

def readSessionRefreshSuccess : Reader SessionRefreshAck := do
  let expiresAt ← Reader.u64 "packet too short for expires_at"
  let interval ← Reader.u16 "packet too short for interval"
  return { result := resultSuccess, errorCode := 0, expiresAt, interval }

def readSessionRefreshAck : Reader SessionRefreshAck :=
  readAck (ackHead msgSessionRefreshAck)
    (fun result ↦ failedWith (SessionRefreshAck.failure result)) readSessionRefreshSuccess

def parseSessionRefreshAck : List UInt8 → Outcome SessionRefreshAck := readSessionRefreshAck.parse

def RegisterAck.failure (result errorCode : UInt8) : RegisterAck :=
  { result, errorCode, secretKey := [], sessionToken := [], expiresAt := 0, interval := 0 }

def readRegisterSuccess : Reader RegisterAck := do
  let secretKey ← Reader.string16
    "failed to read secret key: buffer too short for length prefix"
    "failed to read secret key: buffer too short for string data"
  let sessionToken ← Reader.string16
    "failed to read session token: buffer too short for length prefix"
    "failed to read session token: buffer too short for string data"
  let expiresAt ← Reader.u64 "packet too short for expires_at"
  let interval ← Reader.u16 "packet too short for interval"
  return { result := resultSuccess, errorCode := 0, secretKey, sessionToken, expiresAt,
           interval }

def readRegisterAck : Reader RegisterAck :=
  readAck (ackHead msgRegisterAck) (fun result ↦ failedWith (RegisterAck.failure result))
    readRegisterSuccess

def parseRegisterAck : List UInt8 → Outcome RegisterAck := readRegisterAck.parse

/-- This parser asks for type and result at once, and has its own texts. -/
def vpnAckHead : Reader UInt8 := do
  Reader.require 2 "vpn ack packet too short"
  let got ← Reader.index
  if got ≠ msgVPNProvisionAck then
    Reader.fail ("invalid msg type: 0x" ++ hex02 got ++ " (expected 0xB1)")
  else
    Reader.skip 1
    let result ← Reader.index
    Reader.skip 1
    return result

def VPNProvisionAck.failure (result errorCode : UInt8) : VPNProvisionAck :=
  { result, errorCode, assignedIP := [], serverPublicKey := [], serverEndpoint := [] }

def readVPNProvisionSuccess : Reader VPNProvisionAck := do
  let assignedIP ← Reader.string16 "read AssignedIP: unexpected end of packet"
    "read AssignedIP: string length exceeds packet size"
  let serverPublicKey ← Reader.string16 "read ServerPublicKey: unexpected end of packet"
    "read ServerPublicKey: string length exceeds packet size"
  let serverEndpoint ← Reader.string16 "read ServerEndpoint: unexpected end of packet"
    "read ServerEndpoint: string length exceeds packet size"
  return { result := resultSuccess, errorCode := 0, assignedIP, serverPublicKey,
           serverEndpoint }

def readVPNProvisionAck : Reader VPNProvisionAck :=
  readAck vpnAckHead (fun result ↦ failedWith (VPNProvisionAck.failure result))
    readVPNProvisionSuccess

def parseVPNProvisionAck : List UInt8 → Outcome VPNProvisionAck := readVPNProvisionAck.parse

/-! ## API key replies -/

/-- The fields behind the type byte of an `API_KEY_RESPONSE`. -/
def readAPIKeyFields : Reader APIKeyResponse := do
  let result ← Reader.u8 "packet too short for result"
  let errorCode ← Reader.u8 "packet too short for error code"
  if result = 0x00 then
    let apiKey ← Reader.string16 "packet too short for key length" "packet too short for key data"
    let expiresAt ← Reader.u64 "packet too short for expires_at"
    return { result, errorCode, apiKey, expiresAt }
  else return { result, errorCode, apiKey := [], expiresAt := 0 }

/-- The source's `parseAPIKeyResponseFromOffset`. -/
def readAPIKeyResponse : Reader APIKeyResponse := do
  let got ← Reader.index
  if got ≠ msgAPIKeyResponse then Reader.fail (invalidMessageType got msgAPIKeyResponse)
  else
    Reader.skip 1
    readAPIKeyFields

/-- Both formats: with the type first, or behind a 16-bit length. The expected size in the text is
computed in 16 bits. -/
def parseAPIKeyResponse (data : List UInt8) : Outcome APIKeyResponse :=
  match data with
  | [] => .err "packet too short"
  | b :: _ =>
    if 3 ≤ data.length ∧ data[2]? = some msgAPIKeyResponse then
      let payloadLength := UInt16.ofNat (leValue (data.take 2))
      if data.length < payloadLength.toNat + 2 then
        .err ("packet incomplete, expected " ++ toString (payloadLength + 2) ++ " bytes, got " ++
          toString data.length)
      else (readAPIKeyResponse data 2).map Prod.fst
    else if b = msgAPIKeyResponse then (readAPIKeyResponse data 0).map Prod.fst
    else .err (invalidMessageType b msgAPIKeyResponse)

def readAPIKeyRevokeAck : Reader APIKeyRevokeAck :=
  readAck (ackHead msgAPIKeyRevokeAck)
    (fun result ↦ failedWith (APIKeyRevokeAck.mk result))
    (return { result := resultSuccess, errorCode := 0 })

def parseAPIKeyRevokeAck : List UInt8 → Outcome APIKeyRevokeAck := readAPIKeyRevokeAck.parse

/-- The fields that follow when there is an active key; each of them may be missing. -/
def readActiveKey (hasActiveKey : UInt8) (status apiKey : List UInt8) :
    Reader APIKeyStatusResponse := do
  let createdAt ← Reader.optionalU64
  let expiresAt ← Reader.optionalU64
  let userUUID ← Reader.optionalString16
  let userActivatedAt ← Reader.optionalU64
  return { hasActiveKey, status, apiKey, createdAt, expiresAt, userUUID, userActivatedAt }

/-- Type, whether there is an active key, status and key. -/
def readStatusHead : Reader (UInt8 × List UInt8 × List UInt8) := do
  messageType msgAPIKeyStatusResp
  let hasActiveKey ← Reader.u8 "packet too short for has_active_key"
  let status ← Reader.string16 "packet too short for status length"
    "packet too short for status data"
  let apiKey ← Reader.string16 "packet too short for api_key length"
    "packet too short for api_key data"
  return (hasActiveKey, status, apiKey)

def readAPIKeyStatusResponse : Reader APIKeyStatusResponse := do
  let (hasActiveKey, status, apiKey) ← readStatusHead
  if hasActiveKey = 0x01 then readActiveKey hasActiveKey status apiKey
  else
    return { hasActiveKey, status, apiKey, createdAt := 0, expiresAt := 0, userUUID := [],
             userActivatedAt := 0 }

def parseAPIKeyStatusResponse : List UInt8 → Outcome APIKeyStatusResponse :=
  readAPIKeyStatusResponse.parse

def readAPIKeyDeleteAck : Reader APIKeyDeleteAck := do
  messageType msgAPIKeyDeleteAck
  let result ← Reader.u8 "packet too short for result"
  let errorCode ← Reader.u8 "packet too short for error_code"
  return { result, errorCode }

def parseAPIKeyDeleteAck : List UInt8 → Outcome APIKeyDeleteAck := readAPIKeyDeleteAck.parse

end DroneBridge
