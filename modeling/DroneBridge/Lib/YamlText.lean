import DroneBridge.Lib.Yaml

/-!
# Trees as text in block style

Each entry of a mapping stands on a line of its own, and what belongs to it stands below it, further
to the right. Collections are aligned to columns that are multiples of four, except that the content
of an item begins right after its dash. How keys, strings and numbers are spelled is left to an
emitter: a string may need quotes, and one with line breaks may need several lines.
-/

namespace Yaml

/-- Characters of a line; none of them ends it. -/
def IsLine (l : List Char) : Prop := '\n' ∉ l ∧ '\r' ∉ l

instance (l : List Char) : Decidable (IsLine l) := inferInstanceAs (Decidable (_ ∧ _))

/-- The characters at which the format breaks lines. -/
def isBreak (c : Char) : Bool := c.toNat ∈ [0x0a, 0x0d, 0x85, 0x2028, 0x2029]

/-- A string of one line. -/
def IsOneLine (s : String) : Prop := ∀ c ∈ s.toList, isBreak c = false

instance (s : String) : Decidable (IsOneLine s) := List.decidableBAll _ _

/-- Keys that need no quotes. -/
def isPlainKey (k : String) : Bool :=
  k.toList.head?.any Char.isLower && k.toList.all (fun c ↦ c.isLower || c.isDigit || c = '_') &&
    k ∉ ["y", "n", "yes", "no", "on", "off", "true", "false", "null"]

/-- Strings of characters that never need an escape. -/
def isWord (s : String) : Bool :=
  s.toList.all fun c ↦ c.isAlphanum || c = '_' || c = '-' || c = '.'

/-- How the parts of a line are spelled. -/
structure Emitter where
  key : String → List Char
  /-- A string on its first line, and the lines that follow. -/
  str : String → List Char × List (List Char)
  float : ℚ → String
  isLine_key : ∀ k, IsLine (key k)
  isLine_str : ∀ s, IsLine (str s).1
  isLine_more : ∀ s, ∀ l ∈ (str s).2, IsLine l
  isLine_float : ∀ q, IsLine (float q).toList
  key_plain : ∀ k, isPlainKey k = true → key k = k.toList
  str_single : ∀ s, IsOneLine s → (str s).2 = []
  /-- A word is written as it is or in quotes; nothing is written in quotes. -/
  str_word : ∀ s, isWord s = true →
    (s ≠ "" ∧ (str s).1 = s.toList) ∨ (str s).1 = '"' :: (s.toList ++ ['"'])

/-- Blank lines are not indented. -/
def indent (n : ℕ) (l : List Char) : List Char := if l = [] then [] else List.replicate n ' ' ++ l

/-- The column of a collection below an entry at column `n`. -/
def nextColumn (n : ℕ) : ℕ := 4 * ((n + 4) / 4)

namespace Emitter

variable (E : Emitter)

/-- A scalar on its first line, and the lines that follow. -/
def scalar : Yaml → List Char × List (List Char)
  | .null => ("null".toList, [])
  | .bool b => ((if b then "true" else "false").toList, [])
  | .int n => ((toString n).toList, [])
  | .float _ q => ((E.float q).toList, [])
  | .str s => E.str s
  | .seq _ | .map _ => ([], [])

/-- What follows a colon on its line, and the lines below; `nested` are those of a collection. -/
def value (v : Yaml) (nested : List (List Char)) : List Char × List (List Char) :=
  match v with
  | .map [] => ([' ', '\x7b', '\x7d'], [])
  | .seq [] => ([' ', '[', ']'], [])
  | .map (_ :: _) | .seq (_ :: _) => ([], nested)
  | y => (' ' :: (E.scalar y).1, (E.scalar y).2)

/-- The lines of an item; the first line of a collection stands behind the dash. -/
def item (v : Yaml) (nested : List (List Char)) : List (List Char) :=
  match E.value v nested with
  | ([], l :: ls) => ('-' :: ' ' :: l) :: ls.map (indent 2)
  | (first, more) => ('-' :: first) :: more.map (indent 2)

mutual

/-- The lines of a collection with its left edge at column `n`, counted from that edge. -/
def block (n : ℕ) : Yaml → List (List Char)
  | .map es => entries n es
  | .seq ys => items n ys
  | _ => []

def entries (n : ℕ) : List (String × Yaml) → List (List Char)
  | [] => []
  | (k, v) :: es =>
    let (first, more) := E.value v (block (nextColumn n) v)
    ((E.key k ++ ':' :: first) :: more.map (indent (nextColumn n - n))) ++ entries n es

def items (n : ℕ) : List Yaml → List (List Char)
  | [] => []
  | v :: vs => E.item v (block (n + 2) v) ++ items n vs

end

def render (doc : Yaml) : List Char := (E.block 0 doc).flatMap (· ++ ['\n'])

end Emitter

/-! ## Lines -/

theorem IsLine.cons {c : Char} {l : List Char} (hc : c ≠ '\n' ∧ c ≠ '\r') (hl : IsLine l) :
    IsLine (c :: l) := by
  simpa [IsLine, hc.1.symm, hc.2.symm] using hl

theorem IsLine.append {l l' : List Char} (hl : IsLine l) (hl' : IsLine l') : IsLine (l ++ l') := by
  simp_all [IsLine]

theorem IsLine.indent {n : ℕ} {l : List Char} (hl : IsLine l) : IsLine (indent n l) := by
  rw [Yaml.indent]
  split
  · exact ⟨List.not_mem_nil, List.not_mem_nil⟩
  · refine .append ?_ hl
    simp [IsLine, List.mem_replicate]

theorem isLine_indent_of_forall {n : ℕ} {ls : List (List Char)} (h : ∀ l ∈ ls, IsLine l) :
    ∀ l ∈ ls.map (indent n), IsLine l := by
  intro l hl
  obtain ⟨l', hl', rfl⟩ := List.mem_map.mp hl
  exact (h l' hl').indent

namespace Emitter

variable {E : Emitter}

theorem isLine_of_forall_isDigit {l : List Char} (h : ∀ c ∈ l, c.isDigit = true) : IsLine l := by
  constructor <;> intro hc <;> exact absurd (h _ hc) (by decide)

theorem toList_toString_nat (n : ℕ) : (toString n).toList = Nat.toDigits 10 n := by
  rw [Nat.toString_eq_ofList_toDigits, String.toList_ofList]

theorem toList_toString_negSucc (m : ℕ) :
    (toString (Int.negSucc m)).toList = '-' :: (toString (m + 1)).toList := by
  rw [show toString (Int.negSucc m) = "-" ++ toString (m + 1) from rfl]
  simp

theorem isLine_toString (n : ℤ) : IsLine (toString n).toList := by
  have hnat : ∀ m : ℕ, IsLine (toString m).toList := by
    intro m
    rw [toList_toString_nat]
    exact isLine_of_forall_isDigit fun c hc ↦ Nat.isDigit_of_mem_toDigits (by decide) (by decide) hc
  cases n with
  | ofNat m => exact hnat m
  | negSucc m =>
    rw [toList_toString_negSucc]
    exact .cons (by decide) (hnat (m + 1))

theorem isLine_scalar (y : Yaml) : IsLine (E.scalar y).1 := by
  cases y with
  | null => exact (by decide : IsLine "null".toList)
  | bool b =>
    cases b with
    | false => exact (by decide : IsLine "false".toList)
    | true => exact (by decide : IsLine "true".toList)
  | int n => exact isLine_toString n
  | float t q => exact E.isLine_float q
  | str s => exact E.isLine_str s
  | seq ys => exact ⟨List.not_mem_nil, List.not_mem_nil⟩
  | map es => exact ⟨List.not_mem_nil, List.not_mem_nil⟩

theorem isLine_scalar_more (y : Yaml) : ∀ l ∈ (E.scalar y).2, IsLine l := by
  cases y with
  | str s => exact E.isLine_more s
  | _ => exact fun _ hl ↦ absurd hl List.not_mem_nil

theorem isLine_value {v : Yaml} {nested : List (List Char)} (hnested : ∀ l ∈ nested, IsLine l) :
    IsLine (E.value v nested).1 ∧ ∀ l ∈ (E.value v nested).2, IsLine l := by
  have hnone : ∀ l ∈ ([] : List (List Char)), IsLine l := fun _ hl ↦ absurd hl List.not_mem_nil
  rw [value.eq_def]
  split
  · exact ⟨by decide, hnone⟩
  · exact ⟨by decide, hnone⟩
  · exact ⟨⟨List.not_mem_nil, List.not_mem_nil⟩, hnested⟩
  · exact ⟨⟨List.not_mem_nil, List.not_mem_nil⟩, hnested⟩
  · exact ⟨.cons (by decide) (isLine_scalar v), isLine_scalar_more v⟩

theorem isLine_item {v : Yaml} {nested : List (List Char)} (hnested : ∀ l ∈ nested, IsLine l) :
    ∀ l ∈ E.item v nested, IsLine l := by
  obtain ⟨hfirst, hmore⟩ := isLine_value (E := E) (v := v) hnested
  rw [item]
  split
  next l ls heq =>
    rw [heq] at hmore
    rw [List.forall_mem_cons]
    obtain ⟨hl, hls⟩ := List.forall_mem_cons.mp hmore
    exact ⟨.cons (by decide) (.cons (by decide) hl), isLine_indent_of_forall hls⟩
  next first more _ heq =>
    rw [heq] at hfirst hmore
    rw [List.forall_mem_cons]
    exact ⟨.cons (by decide) hfirst, isLine_indent_of_forall hmore⟩

mutual

theorem isLine_block (n : ℕ) : ∀ y, ∀ l ∈ E.block n y, IsLine l
  | .map es => isLine_entries n es
  | .seq ys => isLine_items n ys
  | .null | .bool _ | .int _ | .float _ _ | .str _ => fun _ hl ↦ absurd hl List.not_mem_nil

theorem isLine_entries (n : ℕ) : ∀ es, ∀ l ∈ E.entries n es, IsLine l
  | [] => fun _ hl ↦ absurd hl List.not_mem_nil
  | (k, v) :: es => by
    obtain ⟨hfirst, hmore⟩ := isLine_value (E := E) (v := v) (isLine_block (nextColumn n) v)
    rw [entries, List.forall_mem_append, List.forall_mem_cons]
    exact ⟨⟨(E.isLine_key k).append (.cons (by decide) hfirst), isLine_indent_of_forall hmore⟩,
      isLine_entries n es⟩

theorem isLine_items (n : ℕ) : ∀ ys, ∀ l ∈ E.items n ys, IsLine l
  | [] => fun _ hl ↦ absurd hl List.not_mem_nil
  | v :: vs => by
    rw [items, List.forall_mem_append]
    exact ⟨isLine_item (isLine_block (n + 2) v), isLine_items n vs⟩

end

/-! ## Entries -/

theorem entries_append (n : ℕ) (es fs : List (String × Yaml)) :
    E.entries n (es ++ fs) = E.entries n es ++ E.entries n fs := by
  induction es with
  | nil => rfl
  | cons e es ih =>
    rw [List.cons_append, entries, entries, ih]
    simp

/-! ## Everything in quotes -/

/-- A character between double quotes. -/
def escape (c : Char) : List Char :=
  if c = '"' ∨ c = '\\' then ['\\', c]
  else if c = '\n' then ['\\', 'n']
  else if c = '\r' then ['\\', 'r']
  else [c]

def quote (s : String) : List Char := '"' :: (s.toList.flatMap escape ++ ['"'])

theorem isLine_escape (c : Char) : IsLine (escape c) := by
  rw [escape]
  split_ifs with hquote hnl hcr
  · obtain rfl | rfl := hquote <;> decide
  · decide
  · decide
  · exact .cons ⟨hnl, hcr⟩ ⟨List.not_mem_nil, List.not_mem_nil⟩

theorem isLine_quote (s : String) : IsLine (quote s) := by
  refine .cons (by decide) (.append ?_ (by decide))
  constructor
  all_goals
    intro hmem
    obtain ⟨c, -, hc⟩ := List.mem_flatMap.mp hmem
  · exact (isLine_escape c).1 hc
  · exact (isLine_escape c).2 hc

theorem quote_of_isWord {s : String} (hs : isWord s = true) :
    quote s = '"' :: (s.toList ++ ['"']) := by
  have hescape : ∀ c ∈ s.toList, escape c = [c] := by
    intro c hc
    have hword := List.all_eq_true.mp hs c hc
    rw [escape, if_neg, if_neg, if_neg]
    · rintro rfl
      exact absurd hword (by decide)
    · rintro rfl
      exact absurd hword (by decide)
    · rintro (rfl | rfl) <;> exact absurd hword (by decide)
  rw [quote, List.flatMap_congr hescape, List.flatMap_singleton']

theorem isLine_of_isPlainKey {k : String} (hk : isPlainKey k = true) : IsLine k.toList := by
  simp only [isPlainKey, Bool.and_eq_true, List.all_eq_true] at hk
  constructor <;> intro hc <;> exact absurd (hk.1.2 _ hc) (by decide)

/-- Strings in double quotes, and the exact decimal digits of a binary float. -/
def quoted : Emitter where
  key k := if isPlainKey k then k.toList else quote k
  str s := (quote s, [])
  float q := toString (q.num * 5 ^ q.den.log2) ++ "e-" ++ toString (q.den.log2 : ℤ)
  isLine_key k := by
    split_ifs with hk
    · exact isLine_of_isPlainKey hk
    · exact isLine_quote k
  isLine_str := isLine_quote
  isLine_more _ _ hl := absurd hl List.not_mem_nil
  isLine_float q := by
    rw [String.toList_append, String.toList_append]
    exact .append (.append (isLine_toString _) (by decide)) (isLine_toString _)
  key_plain _ hk := if_pos hk
  str_single _ _ := rfl
  str_word _ hs := .inr (quote_of_isWord hs)

end Emitter

end Yaml
