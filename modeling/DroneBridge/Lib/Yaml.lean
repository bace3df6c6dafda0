import Mathlib.Algebra.Group.Int.Defs
import Mathlib.Data.List.Nodup
import Mathlib.Data.Rat.Floor

/-!
# Trees of a configuration file and typed fields

A file is a tree of mappings, sequences and scalars. A codec turns values of one type into such
trees and back, with the value that a missing field has, and carries the law that what it writes it
reads again. The rules are those of a decoder into typed records:

* a field that is missing or null keeps its zero value, and unknown keys are ignored;
* a mapping with a repeated key is refused;
* a number with a fraction is cut when an integer is wanted, and every scalar has a text;
* some words of older versions of the format count as booleans;
* null elements of a sequence are dropped.
-/

inductive Yaml
  | null
  | bool (b : Bool)
  | int (n : ℤ)
  /-- A number that is not spelled as an integer, with its spelling. -/
  | float (text : String) (value : ℚ)
  | str (s : String)
  | seq (items : List Yaml)
  | map (entries : List (String × Yaml))
  deriving Repr

namespace Yaml

def isNull : Yaml → Bool
  | null => true
  | _ => false

/-- Whether the tree has no parts. -/
def isScalar : Yaml → Bool
  | seq _ | map _ => false
  | _ => true

/-- The words that count as true and as false where a boolean is wanted. -/
def trueWords : List String := ["y", "Y", "yes", "Yes", "YES", "on", "On", "ON"]

def falseWords : List String := ["n", "N", "no", "No", "NO", "off", "Off", "OFF"]

/-- The value under a key of a mapping; `none` for every other tree. -/
def get? (key : String) : Yaml → Option Yaml
  | map entries => entries.lookup key
  | _ => none

/-- The entries of the mapping under a key; none if there is no such mapping. -/
def sectionOf (key : String) (y : Yaml) : List (String × Yaml) :=
  match y.get? key with
  | some (map entries) => entries
  | _ => []

end Yaml

/-- A truncated number in 64 bits; beyond them the nearest bound. -/
def Int64.ofRat (q : ℚ) : Int64 :=
  let n := q.num.tdiv q.den
  if n < -0x8000000000000000 then Int64.minValue
  else if 0x8000000000000000 ≤ n then Int64.maxValue
  else Int64.ofInt n

/-- A whole number at or below `q` is at or below what is left when `q` is cut. -/
theorem Int64.le_toInt_ofRat {k : ℤ} {q : ℚ} (hk : k < 2 ^ 63) (h : (k : ℚ) ≤ q) :
    k ≤ (Int64.ofRat q).toInt := by
  have hden : (0 : ℤ) < q.den := Int.natCast_pos.mpr q.den_pos
  have hcut : k ≤ q.num.tdiv q.den := by
    refine Int.le_tdiv_of_mul_le hden ?_
    simpa using (Rat.le_iff k q).mp h
  rw [Int64.ofRat]
  split
  case isTrue hlow =>
    have hmin := Int64.le_toInt Int64.minValue
    omega
  case isFalse hlow =>
    split
    case isTrue => exact Int.le_of_lt_add_one hk
    case isFalse hhigh =>
      rw [Int64.toInt_ofInt_of_le (by omega) (by omega)]
      exact hcut

theorem Int64.toInt_ofRat_le {k : ℤ} {q : ℚ} (hk : -2 ^ 63 ≤ k) (h : q ≤ k) :
    (Int64.ofRat q).toInt ≤ k := by
  have hden : (0 : ℤ) < q.den := Int.natCast_pos.mpr q.den_pos
  have hcut : q.num.tdiv q.den ≤ k := by
    have hmul : q.num ≤ k * q.den := by simpa using (Rat.le_iff q k).mp h
    have hneg : -k ≤ (-q.num).tdiv q.den :=
      Int.le_tdiv_of_mul_le hden (by rw [Int.neg_mul]; exact Int.neg_le_neg hmul)
    rw [Int.neg_tdiv] at hneg
    omega
  rw [Int64.ofRat]
  split
  case isTrue => exact hk
  case isFalse hlow =>
    split
    case isTrue hhigh =>
      have hmax := Int64.toInt_lt Int64.maxValue
      omega
    case isFalse hhigh =>
      rw [Int64.toInt_ofInt_of_le (by omega) (by omega)]
      exact hcut

theorem Int64.toInt_ofRat_eq_floor {q : ℚ} (hq : 0 ≤ q) (hlt : q < 2 ^ 63) :
    (Int64.ofRat q).toInt = ⌊q⌋ := by
  have hnum : 0 ≤ q.num := Rat.num_nonneg.mpr hq
  have hcut : q.num.tdiv q.den = ⌊q⌋ := by
    rw [Int.tdiv_eq_ediv_of_nonneg hnum, Rat.floor_def']
  have hnonneg : 0 ≤ ⌊q⌋ := Int.floor_nonneg.mpr hq
  have hfloor : ⌊q⌋ < 2 ^ 63 := Int.floor_lt.mpr (by exact_mod_cast hlt)
  rw [Int64.ofRat, hcut, if_neg (by omega), if_neg (by omega),
    Int64.toInt_ofInt_of_le (by omega) (by omega)]

/-- Reading and writing values of one type. -/
structure Yaml.Codec (α : Type) where
  zero : α
  /-- `none` when the tree is not of the type. -/
  dec : Yaml → Option α
  enc : α → Yaml
  dec_enc : ∀ a, dec (enc a) = some a

namespace Yaml.Codec

/-! ## Scalars -/

def bool : Codec Bool where
  zero := false
  dec
    | .null => some false
    | .bool b => some b
    | .str s => if s ∈ trueWords then some true else if s ∈ falseWords then some false else none
    | _ => none
  enc := .bool
  dec_enc _ := rfl

/-- A boolean that may be left open. -/
def optBool : Codec (Option Bool) where
  zero := none
  dec
    | .null => some none
    | y => (bool.dec y).map some
  enc
    | none => .null
    | some b => .bool b
  dec_enc a := by cases a <;> rfl

def int : Codec Int64 where
  zero := 0
  dec
    | .null => some 0
    | .int n =>
      if -0x8000000000000000 ≤ n ∧ n < 0x8000000000000000 then some (Int64.ofInt n) else none
    | .float _ q => if q ≤ 0x8000000000000000 then some (Int64.ofRat q) else none
    | _ => none
  enc n := .int n.toInt
  dec_enc n := by
    dsimp only
    rw [if_pos ⟨n.le_toInt, n.toInt_lt⟩, Int64.ofInt_toInt]

def uint8 : Codec UInt8 where
  zero := 0
  dec
    | .null => some 0
    | .int n => if 0 ≤ n ∧ n < 256 then some (UInt8.ofNat n.toNat) else none
    | .float _ q => if q < 256 then some (UInt8.ofNat (q.num.tdiv q.den).toNat) else none
    | _ => none
  enc n := .int n.toNat
  dec_enc n := by
    have hlt := n.toNat_lt
    dsimp only
    rw [if_pos (by omega), Int.toNat_natCast, UInt8.ofNat_toNat]

/-- Every scalar has a text. That of an integer is taken to be its decimal digits, where `yaml.v3`
keeps the spelling of the file. -/
def string : Codec String where
  zero := ""
  dec
    | .null => some ""
    | .bool b => some (if b then "true" else "false")
    | .int n => some (toString n)
    | .float text _ => some text
    | .str s => some s
    | _ => none
  enc := .str
  dec_enc _ := rfl

/-- A number, spelled as `text` says. -/
def float (text : ℚ → String) : Codec ℚ where
  zero := 0
  dec
    | .null => some 0
    | .int n => some n
    | .float _ q => some q
    | _ => none
  enc q := .float (text q) q
  dec_enc _ := rfl

/-- A mapping that is kept as it is; `default` when it is missing or null. A key that comes twice is
not refused, as `yaml.v3` does. -/
def anyMap (default : List (String × Yaml)) : Codec (List (String × Yaml)) where
  zero := default
  dec
    | .null => some default
    | .map entries => some entries
    | _ => none
  enc := .map
  dec_enc _ := rfl

/-! ## Sequences and records -/

variable {α β : Type}

/-- A sequence of values that are never written as null. -/
def list (c : Codec α) (hc : ∀ a, (c.enc a).isNull = false) : Codec (List α) where
  zero := []
  dec
    | .null => some []
    | .seq items => (items.filter (!·.isNull)).mapM c.dec
    | _ => none
  enc as := .seq (as.map c.enc)
  dec_enc as := by
    dsimp only
    induction as with
    | nil => rfl
    | cons a as ih =>
      rw [List.map_cons, List.filter_cons, hc a, Bool.not_false, if_pos rfl, List.mapM_cons, ih,
        c.dec_enc a]
      rfl

/-- The value of a field among the entries of a mapping. -/
def field (c : Codec α) (key : String) (entries : List (String × Yaml)) : Option α :=
  match entries.lookup key with
  | none => some c.zero
  | some y => c.dec y

/-- A record: a mapping without repeated keys, read field by field. -/
def record (zero : α) (dec : List (String × Yaml) → Option α) (enc : α → List (String × Yaml))
    (hkeys : ∀ a, ((enc a).map Prod.fst).Nodup) (hdec : ∀ a, dec (enc a) = some a) : Codec α where
  zero := zero
  dec
    | .null => some zero
    | .map entries => if (entries.map Prod.fst).Nodup then dec entries else none
    | _ => none
  enc a := .map (enc a)
  dec_enc a := by
    dsimp only
    rw [if_pos (hkeys a), hdec a]

theorem enc_inj (c : Codec α) {a b : α} : c.enc a = c.enc b ↔ a = b := by
  constructor
  · intro h
    have hdec : c.dec (c.enc a) = c.dec (c.enc b) := by rw [h]
    rwa [c.dec_enc, c.dec_enc, Option.some.injEq] at hdec
  · rintro rfl
    rfl

/-- A value that is replaced when it meets `p` is written as before exactly when it does not. -/
theorem enc_ite_eq_iff (c : Codec α) {p : Prop} [Decidable p] {a b : α} (hne : p → b ≠ a) :
    c.enc (if p then b else a) = c.enc a ↔ ¬ p := by
  rw [c.enc_inj]
  by_cases hp : p
  · simpa [hp] using hne hp
  · simp [hp]

end Yaml.Codec
