import Mathlib.Data.List.Sort
import DroneBridge.Lib.Wire

/-!
# Payloads of ordered fields

A message is a list of fields in the order of its declaration. On the wire the fields stand by the
size of their elements, largest first, and fields of one size in the order of the declaration. Zero
bytes at the end of a payload are not sent, except for the first byte of it; the receiver puts them
back, for it knows how long the payload is.
-/

namespace Payload

structure Field where
  size : ℕ
  index : ℕ
  bytes : List UInt8
  deriving DecidableEq, Repr

/-- The order on the wire. Fields of a message differ in their index. -/
def Field.Before (f g : Field) : Prop :=
  g.size < f.size ∨ f.size = g.size ∧ f.index ≤ g.index

instance (f g : Field) : Decidable (f.Before g) := inferInstanceAs (Decidable (_ ∨ _ ∧ _))

def reorder (fields : List Field) : List Field := fields.insertionSort Field.Before

def pack (fields : List Field) : List UInt8 := (reorder fields).flatMap Field.bytes

/-! ## Trailing zeros -/

/-- The loop that finds the end of the bytes to send, from `n` down. -/
def lastUsed (buf : List UInt8) : ℕ → ℕ
  | 0 => 0
  | 1 => 1
  | n + 2 => if buf[n + 1]? = some 0 then lastUsed buf (n + 1) else n + 2

/-- At least one byte is sent. -/
def removeEmptyBytes (buf : List UInt8) : List UInt8 := buf.take (lastUsed buf buf.length)

/-- The receiver fills a payload of `size` bytes up with zeros. -/
def zeroExtend (size : ℕ) (payload : List UInt8) : List UInt8 :=
  if payload.length < size then payload ++ List.replicate (size - payload.length) 0 else payload

theorem lastUsed_le (buf : List UInt8) (n : ℕ) : lastUsed buf n ≤ n := by
  induction n using Nat.strongRecOn with
  | ind n ih =>
    rcases n with _ | _ | n
    · exact Nat.le_refl 0
    · exact Nat.le_refl 1
    · rw [lastUsed]
      split
      · exact Nat.le_trans (ih (n + 1) (by omega)) (by omega)
      · exact Nat.le_refl _

theorem getElem?_of_lastUsed_le {buf : List UInt8} {n i : ℕ} (hi : lastUsed buf n ≤ i)
    (hin : i < n) : buf[i]? = some 0 := by
  induction n using Nat.strongRecOn with
  | ind n ih =>
    rcases n with _ | _ | n
    · exact absurd hin (Nat.not_lt_zero i)
    · rw [lastUsed] at hi
      omega
    · rw [lastUsed] at hi
      split at hi
      case isTrue hzero =>
        by_cases hlast : i = n + 1
        · rwa [hlast]
        · exact ih (n + 1) (by omega) hi (by omega)
      case isFalse => omega

theorem drop_lastUsed (buf : List UInt8) :
    buf.drop (lastUsed buf buf.length) =
      List.replicate (buf.length - lastUsed buf buf.length) 0 := by
  refine List.ext_getElem? fun i ↦ ?_
  rw [List.getElem?_drop, List.getElem?_replicate]
  by_cases hi : i < buf.length - lastUsed buf buf.length
  · rw [if_pos hi]
    exact getElem?_of_lastUsed_le (Nat.le_add_right _ i) (by omega)
  · rw [if_neg hi, List.getElem?_eq_none (by omega)]

/-- The receiver has the payload as it was before the zeros were taken off. -/
theorem zeroExtend_removeEmptyBytes (buf : List UInt8) :
    zeroExtend buf.length (removeEmptyBytes buf) = buf := by
  have hlen : (removeEmptyBytes buf).length = lastUsed buf buf.length := by
    rw [removeEmptyBytes, List.length_take, Nat.min_eq_left (lastUsed_le buf _)]
  have hwhole : removeEmptyBytes buf ++ List.replicate (buf.length - lastUsed buf buf.length) 0 =
      buf := by
    rw [removeEmptyBytes, ← drop_lastUsed, List.take_append_drop]
  rw [zeroExtend, hlen]
  split
  case isTrue => exact hwhole
  case isFalse hfull =>
    rw [Nat.sub_eq_zero_of_le (Nat.not_lt.mp hfull), List.replicate_zero, List.append_nil] at hwhole
    exact hwhole

end Payload
