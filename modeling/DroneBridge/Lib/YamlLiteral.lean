import DroneBridge.Lib.YamlText

/-!
# Strings of several lines, written and read

A string with a line feed is written as a literal block, unless the block could not hold it: each of
its lines stands on a line of the text, to the right of the entry. The reader finds out from the
first line how far to the right, or is told by a hint in the header. The writer gives a hint if the
string begins with a space or a break, always the same number. Three things go wrong:

* a break at the start of the string is taken for the end of the header;
* a tab at the start stands where the reader still looks for indentation, and it refuses the text;
* below an item of a sequence the hint is two columns off, so that the reader misses the block or
  cuts it short, and then finds lines that belong to nothing.

Every other string is written on one line, in quotes if need be, and comes back.
-/

namespace Yaml

/-! ## One string -/

/-- Characters that need no escape. Tabs are let through by the writer of blocks. -/
def isPrintable (c : Char) : Bool :=
  let n := c.toNat
  n = 0x09 || n = 0x0a || (0x20 ≤ n && n ≤ 0x7e) ||
    (0xa0 ≤ n && n ≤ 0xffff && n ≠ 0xfeff && n ≠ 0xfffe && n ≠ 0xffff)

/-- Whether a space stands before a break or at the end. -/
def hasSpaceAtEnd : List Char → Bool
  | [] => false
  | [c] => c = ' '
  | c :: c' :: cs => c = ' ' && isBreak c' || hasSpaceAtEnd (c' :: cs)

/-- The strings that are written as a block. -/
def isLiteral (s : List Char) : Bool := s.contains '\n' && s.all isPrintable && !hasSpaceAtEnd s

def beginsWithBreak (s : List Char) : Bool := s.head?.any isBreak

def endsWithBreak (s : List Char) : Bool := s.getLast?.any isBreak

/-- The content of a block at a column; `start` at the start of a line. -/
def blockContent (column : ℕ) : Bool → List Char → List Char
  | _, [] => []
  | start, c :: cs =>
    if isBreak c then c :: blockContent column true cs
    else (if start then List.replicate column ' ' else []) ++ c :: blockContent column false cs

/-- The text behind the header, up to the line of the next entry. -/
def blockText (column : ℕ) (s : List Char) : List Char :=
  (if beginsWithBreak s then [] else ['\n']) ++ blockContent column true s ++
    if endsWithBreak s then [] else ['\n']

/-- What becomes of the breaks at the end. -/
inductive Chomp
  | strip | clip | keep
  deriving DecidableEq, Repr

def chompOf (s : List Char) : Chomp :=
  match s.reverse with
  | c :: c' :: _ => if isBreak c then if isBreak c' then .keep else .clip else .strip
  | [c] => if isBreak c then .keep else .strip
  | [] => .strip

/-- Where the reader is: at a column, with the widest indentation seen and the breaks read. -/
structure BlockScan where
  column : ℕ
  widest : ℕ
  breaks : List Char
  rest : List Char

/-- Indentation and empty lines. An indentation of zero is not known yet; `none` for a tab in it. -/
def scanBreaks (indent column widest : ℕ) (breaks : List Char) : List Char → Option BlockScan
  | [] => some ⟨column, max widest column, breaks, []⟩
  | c :: cs =>
    if c = ' ' ∧ (indent = 0 ∨ column < indent) then scanBreaks indent (column + 1) widest breaks cs
    else if c = '\t' ∧ (indent = 0 ∨ column < indent) then none
    else if isBreak c then scanBreaks indent 0 (max widest column) (breaks ++ [c]) cs
    else some ⟨column, max widest column, breaks, c :: cs⟩

/-- The lines of a block. What is left of the text comes last. -/
def scanLines (indent : ℕ) (chomp : Chomp) : ℕ → BlockScan → List Char → List Char →
    Option (List Char × List Char)
  | 0, _, _, _ => none
  | fuel + 1, scan, s, lead =>
    if scan.column = indent ∧ scan.rest ≠ [] then
      let s := s ++ lead ++ scan.breaks ++ scan.rest.takeWhile (!isBreak ·)
      match scan.rest.dropWhile (!isBreak ·) with
      | [] => some (s, [])
      | c :: cs =>
        (scanBreaks indent 0 0 [] cs).bind fun scan ↦ scanLines indent chomp fuel scan s [c]
    else
      match chomp with
      | .strip => some (s, scan.rest)
      | .clip => some (s ++ lead, scan.rest)
      | .keep => some (s ++ lead ++ scan.breaks, scan.rest)

/-- Lines with nothing but comments. -/
def onlyComments (rest : List Char) : Bool :=
  (rest.splitOnP isBreak).all fun l ↦ (l.dropWhile (· = ' ')).head?.all (· = '#')

/-- What is read of a block, below an entry of a collection at column `parent`. -/
def readBlock (parent : ℕ) (hint : Bool) (chomp : Chomp) (text : List Char) :
    Option (List Char) := do
  let scan ← scanBreaks (if hint then parent + 4 else 0) 0 0 [] text.tail
  let indent := if hint then parent + 4 else max scan.widest (parent + 1)
  let (s, rest) ← scanLines indent chomp text.length scan [] []
  if onlyComments rest then some s else none

/-- What is read of a string that was written; `none` if the text is refused. -/
def readBack (parent column : ℕ) (s : String) : Option String :=
  if isLiteral s.toList then
    (readBlock parent (s.toList.head?.any fun c ↦ c = ' ' || isBreak c) (chompOf s.toList)
      (blockText column s.toList)).map String.ofList
  else some s

/-! ## Trees -/

mutual

/-- What is read of a tree that was written, below an entry of a collection at column `parent`. -/
def reread (parent column : ℕ) : Yaml → Option Yaml
  | .str s => (readBack parent column s).map .str
  | .seq items => (rereadItems column items).map .seq
  | .map entries => (rereadEntries column entries).map .map
  | y => some y

def rereadItems (column : ℕ) : List Yaml → Option (List Yaml)
  | [] => some []
  | y :: ys => do return (← reread column (column + 2) y) :: (← rereadItems column ys)

def rereadEntries (column : ℕ) : List (String × Yaml) → Option (List (String × Yaml))
  | [] => some []
  | (k, y) :: es => do
    return (k, ← reread column (nextColumn column) y) :: (← rereadEntries column es)

end

/-- What is read of the text of a document. -/
def reparse (doc : Yaml) : Option Yaml := reread 0 0 doc

mutual

/-- A tree whose strings have one line each. -/
def OneLine : Yaml → Prop
  | .str s => IsOneLine s
  | .seq items => OneLineItems items
  | .map entries => OneLineEntries entries
  | _ => True

def OneLineItems : List Yaml → Prop
  | [] => True
  | y :: ys => OneLine y ∧ OneLineItems ys

def OneLineEntries : List (String × Yaml) → Prop
  | [] => True
  | (_, y) :: es => OneLine y ∧ OneLineEntries es

end

mutual

instance decidableOneLine : ∀ y : Yaml, Decidable y.OneLine
  | .str s => decidable_of_iff (IsOneLine s) (by rw [OneLine])
  | .seq items =>
    have := decidableOneLineItems items
    decidable_of_iff (OneLineItems items) (by rw [OneLine])
  | .map entries =>
    have := decidableOneLineEntries entries
    decidable_of_iff (OneLineEntries entries) (by rw [OneLine])
  | .null | .bool _ | .int _ | .float _ _ => isTrue (by simp [OneLine])

instance decidableOneLineItems : ∀ ys, Decidable (OneLineItems ys)
  | [] => isTrue trivial
  | y :: ys =>
    have := decidableOneLine y
    have := decidableOneLineItems ys
    inferInstanceAs (Decidable (_ ∧ _))

instance decidableOneLineEntries : ∀ es, Decidable (OneLineEntries es)
  | [] => isTrue trivial
  | (_, y) :: es =>
    have := decidableOneLine y
    have := decidableOneLineEntries es
    inferInstanceAs (Decidable (_ ∧ _))

end

theorem readBack_of_isOneLine {s : String} (h : IsOneLine s) (parent column : ℕ) :
    readBack parent column s = some s := by
  have hfeed : s.toList.contains '\n' = false := by
    rw [Bool.eq_false_iff, ne_eq, List.contains_iff_mem]
    intro hmem
    exact absurd (h '\n' hmem) (by decide)
  rw [readBack, isLiteral, hfeed]
  rfl

mutual

theorem reread_of_oneLine (parent column : ℕ) :
    ∀ {y : Yaml}, y.OneLine → reread parent column y = some y
  | .str s, h => by
    rw [OneLine] at h
    rw [reread, readBack_of_isOneLine h, Option.map_some]
  | .seq items, h => by
    rw [OneLine] at h
    rw [reread, rereadItems_of_oneLine column h, Option.map_some]
  | .map entries, h => by
    rw [OneLine] at h
    rw [reread, rereadEntries_of_oneLine column h, Option.map_some]
  | .null, _ | .bool _, _ | .int _, _ | .float _ _, _ => by rw [reread] <;> simp

theorem rereadItems_of_oneLine (column : ℕ) :
    ∀ {ys : List Yaml}, OneLineItems ys → rereadItems column ys = some ys
  | [], _ => by rw [rereadItems]
  | y :: ys, h => by
    rw [OneLineItems] at h
    rw [rereadItems, reread_of_oneLine _ _ h.1, rereadItems_of_oneLine column h.2]
    rfl

theorem rereadEntries_of_oneLine (column : ℕ) :
    ∀ {es : List (String × Yaml)}, OneLineEntries es → rereadEntries column es = some es
  | [], _ => by rw [rereadEntries]
  | (k, y) :: es, h => by
    rw [OneLineEntries] at h
    rw [rereadEntries, reread_of_oneLine _ _ h.1, rereadEntries_of_oneLine column h.2]
    rfl

end

/-- **A document whose strings have one line each comes back.** -/
theorem reparse_of_oneLine {doc : Yaml} (h : doc.OneLine) : doc.reparse = some doc :=
  reread_of_oneLine 0 0 h

/-! ## What codecs write -/

theorem oneLineItems_iff {ys : List Yaml} : OneLineItems ys ↔ ∀ y ∈ ys, y.OneLine := by
  induction ys with
  | nil => simp [OneLineItems]
  | cons y ys ih => rw [OneLineItems, ih, List.forall_mem_cons]

namespace Codec

variable {α : Type}

@[simp] theorem oneLine_string {s : String} : (string.enc s).OneLine ↔ IsOneLine s := by
  change OneLine (.str s) ↔ _
  rw [OneLine]

@[simp] theorem oneLine_bool {b : Bool} : (bool.enc b).OneLine := by
  change OneLine (.bool b)
  rw [OneLine] <;> simp

@[simp] theorem oneLine_optBool {b : Option Bool} : (optBool.enc b).OneLine := by
  cases b <;> simp [optBool, OneLine]

@[simp] theorem oneLine_int {n : Int64} : (int.enc n).OneLine := by simp [int, OneLine]

@[simp] theorem oneLine_float {text : ℚ → String} {q : ℚ} : ((float text).enc q).OneLine := by
  simp [float, OneLine]

@[simp] theorem oneLine_list {c : Codec α} {hc : ∀ a, (c.enc a).isNull = false} {as : List α} :
    ((list c hc).enc as).OneLine ↔ ∀ a ∈ as, (c.enc a).OneLine := by
  simp [list, OneLine, oneLineItems_iff]

@[simp] theorem oneLine_record {zero : α} {dec : List (String × Yaml) → Option α}
    {enc : α → List (String × Yaml)} {hkeys : ∀ a, ((enc a).map Prod.fst).Nodup}
    {hdec : ∀ a, dec (enc a) = some a} {a : α} :
    ((record zero dec enc hkeys hdec).enc a).OneLine ↔ OneLineEntries (enc a) := by
  change OneLine (.map (enc a)) ↔ _
  rw [OneLine]

end Codec

end Yaml
