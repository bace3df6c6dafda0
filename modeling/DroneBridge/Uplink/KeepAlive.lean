import DroneBridge.Lib.Payload
import DroneBridge.Uplink.Sender

/-!
# The session keepalive on the wire

The keepalive message carries the session token. Its payload has the expiry first, then the sequence
number, the token field and the connection flag, since the library puts the fields with the larger
elements first. Some servers look for the token one byte behind its field. For these the shifted
mode moves the token up by one byte, so that its last byte comes to lie in the connection flag, the
last byte of the payload and the first one to be cut off when it is zero.
-/

namespace DroneBridge

/-! ## Tokens -/

theorem hexDecode_of_digits {cs : List Char} (hhex : ∀ c ∈ cs, (hexDigit c).isSome = true)
    {n : ℕ} (hlen : cs.length = 2 * n) :
    ∃ token, hexDecode cs = some token ∧ token.length = n := by
  induction n generalizing cs with
  | zero =>
    rw [List.length_eq_zero_iff.mp hlen]
    exact ⟨[], rfl, rfl⟩
  | succ n ih =>
    rcases cs with _ | ⟨hi, _ | ⟨lo, cs⟩⟩
    · exact absurd hlen (by simp)
    · exact absurd hlen (by simp; omega)
    · obtain ⟨hhi, hrest⟩ := List.forall_mem_cons.mp hhex
      obtain ⟨hlo, hcs⟩ := List.forall_mem_cons.mp hrest
      obtain ⟨h, hh⟩ := Option.isSome_iff_exists.mp hhi
      obtain ⟨l, hl⟩ := Option.isSome_iff_exists.mp hlo
      obtain ⟨token, htoken, htlen⟩ := ih hcs (by simp only [List.length_cons] at hlen; omega)
      refine ⟨(h * 16 + l) :: token, ?_, by rw [List.length_cons, htlen]⟩
      rw [hexDecode, hh, hl, htoken]

/-! ## The payload -/

namespace MessageMavlinkKeepAlive

variable (m : MessageMavlinkKeepAlive)

/-- The fields in the order of the declaration. -/
def fields : List Payload.Field :=
  [⟨1, 0, m.token⟩, ⟨4, 1, leBytes 4 m.expiresAt.toNat⟩, ⟨2, 2, leBytes 2 m.sequence.toNat⟩,
    ⟨1, 3, [m.pixhawkConnected]⟩]

def payload : List UInt8 := Payload.removeEmptyBytes (Payload.pack m.fields)

/-- The payload as the receiver reads it. -/
def received : List UInt8 := Payload.zeroExtend 39 m.payload

theorem pack_fields : Payload.pack m.fields =
    leBytes 4 m.expiresAt.toNat ++ (leBytes 2 m.sequence.toNat ++
      (m.token ++ [m.pixhawkConnected])) := by
  simp [Payload.pack, Payload.reorder, fields, Payload.Field.Before, List.insertionSort,
    List.orderedInsert]

variable {m}

theorem received_eq (htoken : m.token.length = 32) :
    m.received = leBytes 4 m.expiresAt.toNat ++ (leBytes 2 m.sequence.toNat ++
      (m.token ++ [m.pixhawkConnected])) := by
  have hlen : (Payload.pack m.fields).length = 39 := by
    rw [pack_fields]
    simp [htoken]
  rw [received, payload, ← hlen, Payload.zeroExtend_removeEmptyBytes, pack_fields]

/-- The receiver finds token and flag behind the first six bytes. -/
theorem drop_received (htoken : m.token.length = 32) :
    m.received.drop 6 = m.token ++ [m.pixhawkConnected] := by
  rw [received_eq htoken, ← List.append_assoc, List.drop_left' (by simp)]

end MessageMavlinkKeepAlive

/-- The shifted token and the flag are a zero byte and the token. -/
theorem sessionKeepAlive_shifted {token : List UInt8} (htoken : token.length = 32)
    (expiresAt : UInt32) (sequence : UInt16) (connected : Bool) :
    (sessionKeepAlive true token expiresAt sequence connected).token ++
      [(sessionKeepAlive true token expiresAt sequence connected).pixhawkConnected] =
        0 :: token := by
  have hlast : token.take 31 ++ [token.getD 31 0] = token := by
    have hget : token.getD 31 0 = token[31] := by simp [List.getD, htoken]
    rw [hget, List.take_append_getElem, List.take_of_length_le (by omega)]
  rw [sessionKeepAlive, if_pos rfl]
  exact congrArg (0 :: ·) hlast

theorem length_sessionKeepAlive_token {token : List UInt8} (htoken : token.length = 32)
    (shifted : Bool) (expiresAt : UInt32) (sequence : UInt16) (connected : Bool) :
    (sessionKeepAlive shifted token expiresAt sequence connected).token.length = 32 := by
  rw [sessionKeepAlive]
  split
  · simp [htoken]
  · exact htoken

/-- Behind the expiry and the sequence number there is one zero byte, and then the token. -/
theorem drop_received_shifted {token : List UInt8} (htoken : token.length = 32)
    (expiresAt : UInt32) (sequence : UInt16) (connected : Bool) :
    (sessionKeepAlive true token expiresAt sequence connected).received.drop 7 = token := by
  have hdrop := MessageMavlinkKeepAlive.drop_received
    (length_sessionKeepAlive_token htoken true expiresAt sequence connected)
  rw [sessionKeepAlive_shifted htoken] at hdrop
  have hseven := List.drop_drop (i := 1) (j := 6)
    (l := (sessionKeepAlive true token expiresAt sequence connected).received)
  rw [hdrop] at hseven
  exact hseven.symm

theorem sliceAt_of_drop {data mid post : List UInt8} {n : ℕ} (hn : n ≤ data.length)
    (h : data.drop n = mid ++ post) : sliceAt data n (n + mid.length) = .ok mid := by
  have hdata : data = data.take n ++ (mid ++ post) := by rw [← h, List.take_append_drop]
  have hlen : (data.take n).length = n := by rw [List.length_take, Nat.min_eq_left hn]
  have hslice := sliceAt_mid (data.take n) mid post
  rwa [← hdata, hlen] at hslice

/-- **Where the token is.** The payload is 39 bytes long and has the 32 bytes of the token from
offset 7 to 38 in shifted mode, and from 6 to 37 in normal mode. -/
theorem keepAlive_token_offset {tokenHex : String} (hlen : tokenHex.toList.length = 64)
    (hhex : ∀ c ∈ tokenHex.toList, (hexDigit c).isSome = true) (expiresAt : UInt64)
    (sequence : UInt16) (connected : Bool) :
    ∃ token, hexDecode tokenHex.toList = some token ∧ token.length = 32 ∧
      (∀ shifted, (sessionKeepAlive shifted token expiresAt.toUInt32 sequence
        connected).received.length = 39) ∧
      sliceAt (sessionKeepAlive true token expiresAt.toUInt32 sequence connected).received 7 39 =
        .ok token ∧
      sliceAt (sessionKeepAlive false token expiresAt.toUInt32 sequence connected).received 6 38 =
        .ok token := by
  obtain ⟨token, hdecode, htoken⟩ := hexDecode_of_digits hhex (n := 32) hlen
  have hfield (shifted : Bool) := length_sessionKeepAlive_token htoken shifted expiresAt.toUInt32
    sequence connected
  have hsize (shifted : Bool) : (sessionKeepAlive shifted token expiresAt.toUInt32 sequence
      connected).received.length = 39 := by
    rw [MessageMavlinkKeepAlive.received_eq (hfield shifted)]
    simp [hfield]
  refine ⟨token, hdecode, htoken, hsize, ?_, ?_⟩
  · have hdrop := drop_received_shifted htoken expiresAt.toUInt32 sequence connected
    have hslice := sliceAt_of_drop (by rw [hsize]; decide)
      (hdrop.trans (List.append_nil token).symm)
    rw [htoken] at hslice
    exact hslice
  · have hslice := sliceAt_of_drop (by rw [hsize]; decide)
      (MessageMavlinkKeepAlive.drop_received (hfield false))
    rw [hfield] at hslice
    exact hslice

/-- A token that ends in zeros: the last byte of the payload in shifted mode is one of them. -/
theorem keepAlive_token_offset_zeros :
    ∃ token, hexDecode
        "ab00000000000000000000000000000000000000000000000000000000000000".toList = some token ∧
      token.length = 32 ∧
      (∀ shifted, (sessionKeepAlive shifted token (UInt64.toUInt32 1) 7 true).received.length =
        39) ∧
      sliceAt (sessionKeepAlive true token (UInt64.toUInt32 1) 7 true).received 7 39 =
        .ok token ∧
      sliceAt (sessionKeepAlive false token (UInt64.toUInt32 1) 7 true).received 6 38 =
        .ok token :=
  keepAlive_token_offset (by decide) (List.all_eq_true.mp (by decide)) 1 7 true

end DroneBridge
