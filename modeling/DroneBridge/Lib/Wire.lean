import Mathlib.Algebra.Group.Nat.Defs
import Mathlib.Data.List.Basic
import Mathlib.Data.Nat.Basic
import Mathlib.Tactic.SplitIfs

/-!
# Reading binary messages

A reader walks over a buffer with an offset, as hand-written parsers of binary messages do. Reading
outside the buffer is an outcome of its own, so that "never out of range" is something to prove and
not a convention.

A layout is a relation between values and byte strings. `ReadsOn P R L` says that the reader `R`
never reads out of range and that, for the values `P` singles out, it returns a value exactly when
what lies ahead starts with a byte string that `L` relates to it. The rules compose: a reader
built with `bind` reads the concatenation of the layouts of its parts. So a parser is exact as soon
as its fields are, and its layout is computed along its text.
-/

/-- The outcome of a function that may fail with an error or read out of range. -/
inductive Outcome (α : Type*)
  | ok (a : α)
  | err (text : String)
  | outOfRange
  deriving DecidableEq, Repr

namespace Outcome

variable {α β : Type*}

def value? : Outcome α → Option α
  | .ok a => some a
  | .err _ => none
  | .outOfRange => none

def map (f : α → β) : Outcome α → Outcome β
  | .ok a => .ok (f a)
  | .err text => .err text
  | .outOfRange => .outOfRange

def bind : Outcome α → (α → Outcome β) → Outcome β
  | .ok a, f => f a
  | .err text, _ => .err text
  | .outOfRange, _ => .outOfRange

instance : Monad Outcome where
  pure := .ok
  bind := bind

/-- The same outcome with another text on errors. -/
def mapErr (f : String → String) : Outcome α → Outcome α
  | .ok a => .ok a
  | .err text => .err (f text)
  | .outOfRange => .outOfRange

/-- What the environment answers, with the text its errors are reported with. -/
def ofExcept (f : String → String) : Except String α → Outcome α
  | .ok a => .ok a
  | .error text => .err (f text)

theorem value?_eq_some {x : Outcome α} {a : α} : x.value? = some a ↔ x = .ok a := by
  rcases x with a' | text | _ <;> simp [value?]

theorem value?_map {f : α → β} {x : Outcome α} : (x.map f).value? = x.value?.map f := by
  rcases x with a | text | _ <;> rfl

theorem map_eq_ok {f : α → β} {x : Outcome α} {b : β} :
    x.map f = .ok b ↔ ∃ a, x = .ok a ∧ f a = b := by
  rcases x with a' | text | _ <;> simp [map]

theorem bind_eq_ok {α β : Type} {x : Outcome α} {f : α → Outcome β} {b : β} :
    x >>= f = .ok b ↔ ∃ a, x = .ok a ∧ f a = .ok b := by
  rcases x with a | text | _ <;> simp [Bind.bind, bind]

theorem bind_ne_outOfRange {α β : Type} {x : Outcome α} {f : α → Outcome β}
    (hx : x ≠ .outOfRange) (hf : ∀ a, f a ≠ .outOfRange) : x >>= f ≠ .outOfRange := by
  rcases x with a | text | _
  · exact hf a
  · exact nofun
  · exact absurd rfl hx

theorem bind_assoc {α β γ : Type} (x : Outcome α) (f : α → Outcome β) (g : β → Outcome γ) :
    x >>= f >>= g = x >>= fun a ↦ f a >>= g := by
  rcases x with a | text | _ <;> rfl

@[simp] theorem ok_bind {α β : Type} (a : α) (f : α → Outcome β) : Outcome.ok a >>= f = f a := rfl

@[simp] theorem mapErr_eq_ok {f : String → String} {x : Outcome α} {a : α} :
    x.mapErr f = .ok a ↔ x = .ok a := by
  rcases x with a' | text | _ <;> simp [mapErr]

@[simp] theorem mapErr_eq_outOfRange {f : String → String} {x : Outcome α} :
    x.mapErr f = .outOfRange ↔ x = .outOfRange := by
  rcases x with a' | text | _ <;> simp [mapErr]

theorem ofExcept_ne_outOfRange (f : String → String) (x : Except String α) :
    ofExcept f x ≠ .outOfRange := by
  rcases x with text | a' <;> exact nofun

theorem map_eq_outOfRange {f : α → β} {x : Outcome α} :
    x.map f = .outOfRange ↔ x = .outOfRange := by
  rcases x with a' | text | _ <;> simp [map]

end Outcome

/-! ## Little-endian numbers -/

/-- The number a byte string stands for, least significant byte first. -/
def leValue : List UInt8 → ℕ
  | [] => 0
  | b :: bs => b.toNat + 256 * leValue bs

/-- The lowest `n` bytes of a number, least significant first. -/
def leBytes : ℕ → ℕ → List UInt8
  | 0, _ => []
  | n + 1, x => UInt8.ofNat x :: leBytes n (x / 256)

@[simp] theorem length_leBytes (n x : ℕ) : (leBytes n x).length = n := by
  induction n generalizing x with
  | zero => rfl
  | succ n ih => rw [leBytes, List.length_cons, ih]

theorem leValue_lt (bs : List UInt8) : leValue bs < 256 ^ bs.length := by
  induction bs with
  | nil => exact Nat.one_pos
  | cons b bs ih =>
    have hb : b.toNat < 256 := b.toNat_lt
    rw [leValue, List.length_cons, Nat.pow_succ]
    omega

theorem leValue_leBytes {n x : ℕ} (hx : x < 256 ^ n) : leValue (leBytes n x) = x := by
  induction n generalizing x with
  | zero => rw [leBytes, leValue]; omega
  | succ n ih =>
    have hdiv : x / 256 < 256 ^ n := by
      rw [Nat.pow_succ] at hx
      omega
    rw [leBytes, leValue, ih hdiv, UInt8.toNat_ofNat']
    omega

theorem leBytes_leValue (bs : List UInt8) : leBytes bs.length (leValue bs) = bs := by
  induction bs with
  | nil => rfl
  | cons b bs ih =>
    have hb : b.toNat < 256 := b.toNat_lt
    have hdiv : (b.toNat + 256 * leValue bs) / 256 = leValue bs := by omega
    have hmod : UInt8.ofNat (b.toNat + 256 * leValue bs) = b := by
      refine UInt8.toNat_inj.mp ?_
      rw [UInt8.toNat_ofNat']
      omega
    rw [leValue, List.length_cons, leBytes, hdiv, hmod, ih]

theorem leBytes_mod (n x : ℕ) : leBytes n (x % 256 ^ n) = leBytes n x := by
  induction n generalizing x with
  | zero => rfl
  | succ n ih =>
    have hlow : UInt8.ofNat (x % 256 ^ (n + 1)) = UInt8.ofNat x := by
      rw [← UInt8.toNat_inj, UInt8.toNat_ofNat', UInt8.toNat_ofNat']
      exact Nat.mod_mod_of_dvd x (Nat.dvd_mul_left 256 (256 ^ n))
    have hhigh : x % 256 ^ (n + 1) / 256 = x / 256 % 256 ^ n := by
      rw [Nat.pow_succ, Nat.mul_comm, Nat.mod_mul_right_div_self]
    rw [leBytes, leBytes, hlow, hhigh, ih]

/-! ## Random access -/

def byteAt (data : List UInt8) (i : ℕ) : Outcome UInt8 :=
  match data[i]? with
  | some b => .ok b
  | none => .outOfRange

/-- The bytes from index `lo` up to, but not including, index `hi`. -/
def sliceAt (data : List UInt8) (lo hi : ℕ) : Outcome (List UInt8) :=
  if lo ≤ hi ∧ hi ≤ data.length then .ok ((data.drop lo).take (hi - lo)) else .outOfRange

theorem byteAt_append (pre data : List UInt8) (i : ℕ) :
    byteAt (pre ++ data) (pre.length + i) = byteAt data i := by
  rw [byteAt, List.getElem?_append_right (Nat.le_add_right _ _), Nat.add_sub_cancel_left, byteAt]

theorem sliceAt_append (pre data : List UInt8) (lo hi : ℕ) :
    sliceAt (pre ++ data) (pre.length + lo) (pre.length + hi) = sliceAt data lo hi := by
  simp only [sliceAt, List.drop_length_add_append, List.length_append, Nat.add_sub_add_left,
    Nat.add_le_add_iff_left]

theorem byteAt_mid (pre post : List UInt8) (b : UInt8) :
    byteAt (pre ++ b :: post) pre.length = .ok b :=
  byteAt_append pre (b :: post) 0

theorem sliceAt_mid (pre mid post : List UInt8) :
    sliceAt (pre ++ (mid ++ post)) pre.length (pre.length + mid.length) = .ok mid := by
  have hle : pre.length + mid.length ≤ (pre ++ (mid ++ post)).length := by
    rw [List.length_append, List.length_append]
    omega
  rw [sliceAt, if_pos ⟨Nat.le_add_right _ _, hle⟩, List.drop_left, Nat.add_sub_cancel_left,
    List.take_left]

/-- Try the indices in turn until one answers yes. -/
def anyIndex (test : ℕ → Outcome Bool) : List ℕ → Outcome Bool
  | [] => .ok false
  | i :: is => do if ← test i then return true else anyIndex test is

/-- Where every test answers, so does the search, and it says whether some test said yes. -/
theorem anyIndex_eq_ok {test : ℕ → Outcome Bool} {yes : ℕ → Bool} {is : List ℕ}
    (h : ∀ i ∈ is, test i = .ok (yes i)) : anyIndex test is = .ok (is.any yes) := by
  induction is with
  | nil => rfl
  | cons i is ih =>
    have hrest := ih fun j hj ↦ h j (List.mem_cons_of_mem i hj)
    have htest := h i List.mem_cons_self
    rw [anyIndex, htest, List.any_cons, hrest]
    change (if yes i = true then Outcome.ok true else .ok (is.any yes)) = _
    cases yes i <;> rfl

/-! ## Readers -/

/-- A reader takes the buffer and the offset, and returns a value and the new offset. -/
def Reader (α : Type) := List UInt8 → ℕ → Outcome (α × ℕ)

namespace Reader

variable {α β : Type}

def pure (a : α) : Reader α := fun _ offset ↦ .ok (a, offset)

def bind (R : Reader α) (S : α → Reader β) : Reader β := fun data offset ↦
  match R data offset with
  | .ok (a, offset') => S a data offset'
  | .err text => .err text
  | .outOfRange => .outOfRange

instance : Monad Reader where
  pure := pure
  bind := bind

def fail (text : String) : Reader α := fun _ _ ↦ .err text

/-- Whether `n` more bytes are there. -/
def has (n : ℕ) : Reader Bool := fun data offset ↦ .ok (decide (offset + n ≤ data.length), offset)

/-- Fail unless `n` more bytes are there. -/
def require (n : ℕ) (text : String) : Reader Unit := fun data offset ↦
  if data.length < offset + n then .err text else .ok ((), offset)

/-- The byte at the offset. -/
def index : Reader UInt8 := fun data offset ↦
  match data[offset]? with
  | some b => .ok (b, offset)
  | none => .outOfRange

/-- The `n` bytes from the offset on. -/
def slice (n : ℕ) : Reader (List UInt8) := fun data offset ↦
  if offset + n ≤ data.length then .ok ((data.drop offset).take n, offset) else .outOfRange

def skip (n : ℕ) : Reader Unit := fun _ offset ↦ .ok ((), offset + n)

/-- Run a reader on a whole buffer. -/
def parse (R : Reader α) (data : List UInt8) : Outcome α := (R data 0).map Prod.fst

/-! ### Fields -/

/-- One byte; `text` is the error when it is missing. -/
def u8 (text : String) : Reader UInt8 := do
  require 1 text
  let b ← index
  skip 1
  return b

def take (n : ℕ) (text : String) (f : List UInt8 → α) : Reader α := do
  require n text
  let bs ← slice n
  skip n
  return f bs

def u16 (text : String) : Reader UInt16 := take 2 text fun bs ↦ UInt16.ofNat (leValue bs)

def u64 (text : String) : Reader UInt64 := take 8 text fun bs ↦ UInt64.ofNat (leValue bs)

/-- A byte string behind its 16-bit length. -/
def string16 (lengthText dataText : String) : Reader (List UInt8) := do
  let n ← u16 lengthText
  take n.toNat dataText id

/-- `n` bytes that may be missing; then the value is `default`, and nothing is stepped over. -/
def optional (n : ℕ) (default : α) (f : List UInt8 → α) : Reader α := do
  if ← has n then
    let bs ← slice n
    skip n
    return f bs
  else return default

theorem bind_apply (R : Reader α) (S : α → Reader β) (data : List UInt8) (offset : ℕ) :
    (R >>= S) data offset =
      match R data offset with
      | .ok (a, offset') => S a data offset'
      | .err text => .err text
      | .outOfRange => .outOfRange := rfl

theorem pure_apply (a : α) (data : List UInt8) (offset : ℕ) :
    (Pure.pure a : Reader α) data offset = .ok (a, offset) := rfl

end Reader

/-! ## Layouts -/

/-- It never reads out of range, and returns a value of `P` exactly when what lies ahead starts with
a byte string the layout relates to it. -/
structure ReadsOn {α : Type} (P : α → Prop) (R : Reader α) (L : α → List UInt8 → Prop) :
    Prop where
  inRange : ∀ pre rem, R (pre ++ rem) pre.length ≠ .outOfRange
  ok_iff : ∀ pre rem a offset, P a →
    (R (pre ++ rem) pre.length = .ok (a, offset) ↔
      ∃ bs, L a bs ∧ bs <+: rem ∧ offset = pre.length + bs.length)

/-- The reader reads the layout, for every value. -/
def Reads {α : Type} (R : Reader α) (L : α → List UInt8 → Prop) : Prop :=
  ReadsOn (fun _ ↦ True) R L

section Rules

variable {α β : Type} {P : α → Prop} {R : Reader α} {L L' : α → List UInt8 → Prop}

theorem ReadsOn.congr (h : ReadsOn P R L) (hL : ∀ a, P a → ∀ bs, L a bs ↔ L' a bs) :
    ReadsOn P R L' := by
  refine ⟨h.inRange, fun pre rem a offset ha ↦ ?_⟩
  rw [h.ok_iff pre rem a offset ha]
  refine exists_congr fun bs ↦ ?_
  rw [hL a ha]

theorem Reads.congr (h : Reads R L) (hL : ∀ a bs, L a bs ↔ L' a bs) : Reads R L' :=
  ReadsOn.congr h fun a _ ↦ hL a

theorem Reads.on (h : Reads R L) (P : α → Prop) : ReadsOn P R L :=
  ⟨h.inRange, fun pre rem a offset _ ↦ h.ok_iff pre rem a offset trivial⟩

theorem reads_pure (a : α) : Reads (pure a) fun a' bs ↦ a' = a ∧ bs = [] := by
  refine ⟨fun pre rem ↦ nofun, fun pre rem a' offset _ ↦ ?_⟩
  rw [Reader.pure_apply, Outcome.ok.injEq, Prod.mk.injEq]
  constructor
  · rintro ⟨rfl, rfl⟩
    exact ⟨[], ⟨rfl, rfl⟩, List.nil_prefix, rfl⟩
  · rintro ⟨bs, ⟨rfl, rfl⟩, -, hoff⟩
    exact ⟨rfl, hoff.symm⟩

theorem reads_fail (text : String) : Reads (Reader.fail text : Reader α) fun _ _ ↦ False :=
  ⟨fun _ _ ↦ nofun, fun _ _ _ _ _ ↦ ⟨nofun, fun ⟨_, h, _⟩ ↦ h.elim⟩⟩

theorem ReadsOn.ite {c : Prop} [Decidable c] {R' : Reader α} (h : c → ReadsOn P R L)
    (h' : ¬c → ReadsOn P R' L') :
    ReadsOn P (if c then R else R') fun a bs ↦ if c then L a bs else L' a bs := by
  by_cases hc : c
  · simpa only [if_pos hc] using h hc
  · simpa only [if_neg hc] using h' hc

/-- Reading one thing after another reads one layout behind the other. -/
theorem Reads.bind {Q : β → Prop} {S : α → Reader β} {M : α → β → List UInt8 → Prop}
    (hR : Reads R L) (hS : ∀ a, ReadsOn Q (S a) (M a)) :
    ReadsOn Q (R >>= S) fun b bs ↦ ∃ a bs₁ bs₂, L a bs₁ ∧ M a b bs₂ ∧ bs = bs₁ ++ bs₂ := by
  refine ⟨fun pre rem hout ↦ ?_, fun pre rem b offset hb ↦ ?_⟩
  · rw [Reader.bind_apply] at hout
    split at hout
    case h_1 a offset hR' =>
      obtain ⟨bs, -, ⟨rest, rfl⟩, rfl⟩ := (hR.ok_iff pre rem a offset trivial).mp hR'
      rw [← List.append_assoc, ← List.length_append] at hout
      exact (hS a).inRange (pre ++ bs) rest hout
    case h_2 => exact absurd hout (by simp)
    case h_3 hR' => exact hR.inRange pre rem hR'
  · rw [Reader.bind_apply]
    constructor
    · intro hok
      split at hok
      case h_1 a offset' hR' =>
        obtain ⟨bs₁, hL, ⟨rest, rfl⟩, rfl⟩ := (hR.ok_iff pre rem a offset' trivial).mp hR'
        rw [← List.append_assoc, ← List.length_append] at hok
        obtain ⟨bs₂, hM, hpre, hoff⟩ := ((hS a).ok_iff (pre ++ bs₁) rest b offset hb).mp hok
        refine ⟨bs₁ ++ bs₂, ⟨a, bs₁, bs₂, hL, hM, rfl⟩, ?_, ?_⟩
        · exact (List.prefix_append_right_inj bs₁).mpr hpre
        · rw [hoff, List.length_append, List.length_append, Nat.add_assoc]
      case h_2 => exact absurd hok (by simp)
      case h_3 => exact absurd hok (by simp)
    · rintro ⟨bs, ⟨a, bs₁, bs₂, hL, hM, rfl⟩, ⟨rest, rfl⟩, rfl⟩
      have hR' : R (pre ++ (bs₁ ++ bs₂ ++ rest)) pre.length =
          .ok (a, pre.length + bs₁.length) := by
        refine (hR.ok_iff _ _ _ _ trivial).mpr ⟨bs₁, hL, ?_, rfl⟩
        rw [List.append_assoc]
        exact List.prefix_append _ _
      rw [hR']
      dsimp only
      have hS' := ((hS a).ok_iff (pre ++ bs₁) (bs₂ ++ rest) b
        (pre.length + (bs₁ ++ bs₂).length) hb).mpr ⟨bs₂, hM, List.prefix_append _ _, by
          rw [List.length_append, List.length_append, Nat.add_assoc]⟩
      rw [List.length_append] at hS'
      rw [← hS']
      simp [List.append_assoc]

end Rules

/-! ## Fields -/

section Fields

variable {α : Type}

theorem Reader.require_append (n : ℕ) (text : String) (pre rem : List UInt8) :
    require n text (pre ++ rem) pre.length =
      if rem.length < n then .err text else .ok ((), pre.length) := by
  rw [require, List.length_append]
  simp only [Nat.add_lt_add_iff_left]

theorem Reader.slice_append (n : ℕ) (pre rem : List UInt8) :
    slice n (pre ++ rem) pre.length =
      if n ≤ rem.length then .ok (rem.take n, pre.length) else .outOfRange := by
  rw [slice, List.length_append, List.drop_left]
  simp only [Nat.add_le_add_iff_left]

theorem Reader.index_append (pre rem : List UInt8) :
    index (pre ++ rem) pre.length =
      match rem.head? with
      | some b => .ok (b, pre.length)
      | none => .outOfRange := by
  rw [index, List.getElem?_append_right (Nat.le_refl _), Nat.sub_self, List.head?_eq_getElem?]

theorem Reader.take_append (n : ℕ) (text : String) (f : List UInt8 → α)
    (pre rem : List UInt8) :
    take n text f (pre ++ rem) pre.length =
      if rem.length < n then .err text else .ok (f (rem.take n), pre.length + n) := by
  rw [take, bind_apply, require_append]
  by_cases h : rem.length < n
  · rw [if_pos h, if_pos h]
  · rw [if_neg h, if_neg h]
    dsimp only
    rw [bind_apply, slice_append, if_pos (by omega)]
    rfl

theorem Reader.optional_append (n : ℕ) (default : α) (f : List UInt8 → α)
    (pre rem : List UInt8) :
    optional n default f (pre ++ rem) pre.length =
      if rem.length < n then .ok (default, pre.length)
      else .ok (f (rem.take n), pre.length + n) := by
  rw [optional, bind_apply, has, List.length_append]
  dsimp only
  by_cases h : rem.length < n
  · rw [if_pos h, if_neg (by simpa using h)]
    rfl
  · rw [if_neg h, if_pos (by simpa using h), bind_apply, slice_append, if_pos (by omega)]
    rfl

theorem reads_take (n : ℕ) (text : String) (f : List UInt8 → α) :
    Reads (Reader.take n text f) fun a bs ↦ bs.length = n ∧ f bs = a := by
  refine ⟨fun pre rem ↦ ?_, fun pre rem a offset _ ↦ ?_⟩
  · rw [Reader.take_append]
    split <;> simp
  · rw [Reader.take_append]
    split
    case isTrue hlt =>
      refine iff_of_false (by simp) ?_
      rintro ⟨bs, ⟨hlen, -⟩, hpre, -⟩
      have := hpre.length_le
      omega
    case isFalse hge =>
      rw [Outcome.ok.injEq, Prod.mk.injEq]
      constructor
      · rintro ⟨rfl, rfl⟩
        have hlen : (rem.take n).length = n := by rw [List.length_take]; omega
        exact ⟨rem.take n, ⟨hlen, rfl⟩, List.take_prefix n rem, by rw [hlen]⟩
      · rintro ⟨bs, ⟨rfl, rfl⟩, ⟨rest, rfl⟩, rfl⟩
        rw [List.take_left]
        exact ⟨rfl, rfl⟩

theorem Reader.u8_append (text : String) (pre rem : List UInt8) :
    u8 text (pre ++ rem) pre.length =
      match rem with
      | [] => .err text
      | b :: _ => .ok (b, pre.length + 1) := by
  rw [u8, bind_apply, require_append]
  rcases rem with _ | ⟨b, rem⟩
  · rfl
  · rw [if_neg (by simp)]
    dsimp only
    rw [bind_apply, index_append]
    rfl

theorem reads_u8 (text : String) : Reads (Reader.u8 text) fun b bs ↦ bs = [b] := by
  refine ⟨fun pre rem ↦ ?_, fun pre rem b offset _ ↦ ?_⟩
  · rw [Reader.u8_append]
    rcases rem with _ | ⟨b, rem⟩ <;> simp
  · rw [Reader.u8_append]
    rcases rem with _ | ⟨b', rem⟩
    · simp
    · rw [Outcome.ok.injEq, Prod.mk.injEq]
      constructor
      · rintro ⟨rfl, rfl⟩
        exact ⟨[b'], rfl, ⟨rem, rfl⟩, rfl⟩
      · rintro ⟨bs, rfl, hpre, rfl⟩
        rw [List.cons_prefix_cons] at hpre
        exact ⟨hpre.1.symm, rfl⟩

theorem reads_u16 (text : String) :
    Reads (Reader.u16 text) fun x bs ↦ bs = leBytes 2 x.toNat := by
  refine (reads_take 2 text _).congr fun x bs ↦ ?_
  constructor
  · rintro ⟨hlen, rfl⟩
    have hlt := leValue_lt bs
    rw [hlen] at hlt
    rw [UInt16.toNat_ofNat_of_lt' hlt, ← hlen, leBytes_leValue]
  · rintro rfl
    refine ⟨length_leBytes _ _, ?_⟩
    rw [leValue_leBytes x.toNat_lt, UInt16.ofNat_toNat]

theorem reads_u64 (text : String) :
    Reads (Reader.u64 text) fun x bs ↦ bs = leBytes 8 x.toNat := by
  refine (reads_take 8 text _).congr fun x bs ↦ ?_
  constructor
  · rintro ⟨hlen, rfl⟩
    have hlt := leValue_lt bs
    rw [hlen] at hlt
    rw [UInt64.toNat_ofNat_of_lt' hlt, ← hlen, leBytes_leValue]
  · rintro rfl
    refine ⟨length_leBytes _ _, ?_⟩
    rw [leValue_leBytes x.toNat_lt, UInt64.ofNat_toNat]

/-- A byte string of at most 65535 bytes behind its length. -/
def putString16 (s : List UInt8) : List UInt8 := leBytes 2 s.length ++ s

theorem reads_string16 (lengthText dataText : String) :
    Reads (Reader.string16 lengthText dataText)
      fun s bs ↦ s.length ≤ 65535 ∧ bs = putString16 s := by
  have hbind := (reads_u16 lengthText).bind fun n ↦ reads_take n.toNat dataText id
  refine Reads.congr hbind fun s bs ↦ ?_
  constructor
  · rintro ⟨n, bs₁, bs₂, rfl, ⟨hlen, rfl⟩, rfl⟩
    have hn : n.toNat < 65536 := n.toNat_lt
    refine ⟨by rw [id, hlen]; omega, ?_⟩
    rw [putString16, id, hlen]
  · rintro ⟨hlen, rfl⟩
    have hn : (UInt16.ofNat s.length).toNat = s.length :=
      UInt16.toNat_ofNat_of_lt' (Nat.lt_succ_of_le hlen)
    refine ⟨UInt16.ofNat s.length, leBytes 2 s.length, s, ?_, ⟨?_, rfl⟩, rfl⟩
    · rw [hn]
    · rw [hn]

end Fields

/-! ## Cut messages -/

section Prefix

variable {α β : Type} {R : Reader α} {L : α → List UInt8 → Prop} {S : α → Reader β}

/-- Where a byte string can be cut: in its second part, or already in its first. -/
theorem prefix_append_cases {bs rest t : List UInt8} (h : t <+: bs ++ rest) :
    (∃ t', t = bs ++ t' ∧ t' <+: rest) ∨ (t <+: bs ∧ t.length < bs.length) := by
  by_cases hlen : bs.length ≤ t.length
  · obtain ⟨t', rfl⟩ := List.prefix_of_prefix_length_le (List.prefix_append bs rest) h hlen
    exact Or.inl ⟨t', rfl, (List.prefix_append_right_inj bs).mp h⟩
  · exact Or.inr ⟨List.prefix_of_prefix_length_le h (List.prefix_append bs rest) (by omega),
      by omega⟩

/-- A reader finds nothing in a proper part of what it reads. -/
theorem Reads.value?_eq_none (h : Reads R L) {a : α} {bs t : List UInt8} (hL : L a bs)
    (ht : t <+: bs) (hne : t ≠ bs) (pre : List UInt8) :
    (R (pre ++ t) pre.length).value? = none := by
  rw [Option.eq_none_iff_forall_not_mem]
  rintro ⟨a', offset⟩ hmem
  have hok := Outcome.value?_eq_some.mp hmem
  obtain ⟨bs', hL', hpre', rfl⟩ := (h.ok_iff pre t a' offset trivial).mp hok
  -- On all of `bs` the reader would find both values, so both take all of it.
  have hwhole := (h.ok_iff pre bs a _ trivial).mpr ⟨bs, hL, List.prefix_refl bs, rfl⟩
  have hpart := (h.ok_iff pre bs a' _ trivial).mpr ⟨bs', hL', hpre'.trans ht, rfl⟩
  have hlen := (Prod.mk.inj (Outcome.ok.inj (hwhole.symm.trans hpart))).2
  have hle := hpre'.length_le
  exact hne (ht.eq_of_length_le (by omega))

theorem Reads.value?_iff (h : Reads R L) {a : α} {bs t : List UInt8} (hL : L a bs)
    (ht : t <+: bs) (pre : List UInt8) :
    (R (pre ++ t) pre.length).value?.map Prod.fst = some a ↔ bs.length ≤ t.length := by
  by_cases heq : t = bs
  · subst heq
    rw [(h.ok_iff pre t a _ trivial).mpr ⟨t, hL, List.prefix_refl t, rfl⟩]
    exact iff_of_true rfl (Nat.le_refl _)
  · rw [h.value?_eq_none hL ht heq]
    exact iff_of_false (by simp) fun hle ↦ heq (ht.eq_of_length_le hle)

theorem Reader.bind_eq_none {data : List UInt8} {offset : ℕ} (h : (R data offset).value? = none) :
    ((R >>= S) data offset).value? = none := by
  rw [bind_apply]
  rcases hR : R data offset with ⟨a, offset'⟩ | text | _
  · rw [hR] at h
    exact absurd h (by simp [Outcome.value?])
  · rfl
  · rfl

theorem Reader.value?_parse (R : Reader α) (d : List UInt8) :
    (R.parse d).value? = (R d 0).value?.map Prod.fst := Outcome.value?_map

theorem Reads.parse_iff (h : Reads R L) {a : α} {bs d : List UInt8} (hL : L a bs)
    (hd : d <+: bs) : (R.parse d).value? = some a ↔ bs.length ≤ d.length := by
  rw [Reader.value?_parse]
  exact h.value?_iff hL hd []

/-- A message with a head, cut somewhere: nothing is found in a part of the head, and behind the
head it is up to what follows. -/
theorem Reads.parse_bind_iff (h : Reads R L) {a : α} {bs rest d : List UInt8} {b : β}
    (Q : ℕ → Prop) (hL : L a bs)
    (hS : ∀ t, t <+: rest →
      ((S a (bs ++ t) bs.length).value?.map Prod.fst = some b ↔ Q t.length))
    (hd : d <+: bs ++ rest) :
    ((R >>= S).parse d).value? = some b ↔ bs.length ≤ d.length ∧ Q (d.length - bs.length) := by
  rw [Reader.value?_parse]
  rcases prefix_append_cases hd with ⟨t, rfl, ht⟩ | ⟨hpre, hlt⟩
  · have hok := (h.ok_iff [] (bs ++ t) a _ trivial).mpr ⟨bs, hL, List.prefix_append _ _, rfl⟩
    rw [List.nil_append, List.length_nil, Nat.zero_add] at hok
    rw [Reader.bind_apply, hok]
    dsimp only
    rw [hS t ht, List.length_append, Nat.add_sub_cancel_left]
    exact (and_iff_right (Nat.le_add_right _ _)).symm
  · have hne : d ≠ bs := by
      rintro rfl
      exact Nat.lt_irrefl _ hlt
    have hnone := h.value?_eq_none hL hpre hne []
    rw [List.nil_append, List.length_nil] at hnone
    rw [Reader.bind_eq_none hnone]
    exact iff_of_false (by simp) fun hle ↦ Nat.not_le.mpr hlt hle.1

end Prefix

/-! ## Exact parsers -/

section Exact

variable {μ : Type}

/-- A parser returns a success message exactly on its encoding, whatever follows; no part of an
encoding is taken for a success message. -/
structure ExactLayout (parse : List UInt8 → Outcome μ) (success valid : μ → Prop)
    (enc : μ → List UInt8) : Prop where
  inRange : ∀ d, parse d ≠ .outOfRange
  ok_iff : ∀ d m, (parse d = .ok m ∧ success m) ↔ (valid m ∧ ∃ rest, d = enc m ++ rest)
  parse_enc : ∀ m rest, valid m → parse (enc m ++ rest) = .ok m
  prefixFree : ∀ m d, valid m → d <+: enc m → d ≠ enc m →
    ∀ m', parse d = .ok m' → ¬success m'

theorem ReadsOn.exactLayout {success valid : μ → Prop} {R : Reader μ} {enc : μ → List UInt8}
    (h : ReadsOn success R fun m bs ↦ valid m ∧ bs = enc m) (hvalid : ∀ m, valid m → success m) :
    ExactLayout R.parse success valid enc := by
  have hok : ∀ d m, (R.parse d = .ok m ∧ success m) ↔ (valid m ∧ ∃ rest, d = enc m ++ rest) := by
    intro d m
    rw [Reader.parse, Outcome.map_eq_ok]
    constructor
    · rintro ⟨⟨⟨m, offset⟩, hR, rfl⟩, hm⟩
      obtain ⟨bs, ⟨hv, rfl⟩, ⟨rest, rfl⟩, -⟩ := (h.ok_iff [] d m offset hm).mp hR
      exact ⟨hv, rest, rfl⟩
    · rintro ⟨hv, rest, rfl⟩
      have hR := (h.ok_iff [] (enc m ++ rest) m (0 + (enc m).length) (hvalid m hv)).mpr
        ⟨enc m, ⟨hv, rfl⟩, List.prefix_append _ _, rfl⟩
      exact ⟨⟨_, hR, rfl⟩, hvalid m hv⟩
  refine ⟨fun d hout ↦ ?_, hok, fun m rest hv ↦ ((hok _ m).mpr ⟨hv, rest, rfl⟩).1, ?_⟩
  · exact h.inRange [] d (Outcome.map_eq_outOfRange.mp hout)
  · intro m d hv hpre hne m' hm' hsucc
    -- The shorter encoding found in `d` is also found in `enc m`, so it is that of `m` itself.
    obtain ⟨hv', rest', hd⟩ := (hok d m').mp ⟨hm', hsucc⟩
    obtain ⟨rest, hrest⟩ := hpre
    have hm₁ : R.parse (enc m) = .ok m' := by
      rw [← hrest, hd, List.append_assoc]
      exact ((hok _ m').mpr ⟨hv', _, rfl⟩).1
    have hm₂ : R.parse (enc m) = .ok m := ((hok _ m).mpr ⟨hv, [], (List.append_nil _).symm⟩).1
    have hmm : m' = m := Outcome.ok.inj (hm₁.symm.trans hm₂)
    subst hmm
    refine hne (List.IsPrefix.eq_of_length_le ⟨rest, hrest⟩ ?_)
    rw [hd, List.length_append]
    exact Nat.le_add_right _ _

end Exact
