import Mathlib.Data.List.Basic

/-!
# The text of JSON objects whose members are strings

Strings are byte strings. `JsonText.write` is the indented layout of an object, with the escapes
that a string needs. `JsonText.read` goes over a text byte by byte and gives the members, whatever
the white space and the escapes. It reads what was written (`read_write`), and nothing from a text
whose end is missing (`read_take_write`).

Bytes that are not UTF-8 are left as they are. Members that are no strings are not read, and neither
are surrogate pairs.
-/

namespace JsonText

/-- A name and a string. -/
abbrev Member := List UInt8 × List UInt8

def ascii (text : String) : List UInt8 := text.toList.map Char.toUInt8

def isSpace (b : UInt8) : Bool := b = 0x20 || b = 0x09 || b = 0x0A || b = 0x0D

def hexDigit (n : UInt8) : UInt8 := if n < 10 then 0x30 + n else 0x57 + n

def hexValue (b : UInt8) : Option ℕ :=
  if 0x30 ≤ b ∧ b ≤ 0x39 then some (b - 0x30).toNat
  else if 0x61 ≤ b ∧ b ≤ 0x66 then some (b - 0x57).toNat
  else if 0x41 ≤ b ∧ b ≤ 0x46 then some (b - 0x37).toNat
  else none

/-- The byte behind a backslash, except for `u`. -/
def unescape (b : UInt8) : Option UInt8 :=
  [(0x22, 0x22), (0x5C, 0x5C), (0x2F, 0x2F), (0x62, 0x08), (0x66, 0x0C), (0x6E, 0x0A),
    (0x72, 0x0D), (0x74, 0x09)].lookup b

/-- A byte in a string. Control characters are escaped, and what a page would take for markup. -/
def escape (b : UInt8) : List UInt8 :=
  if b = 0x22 ∨ b = 0x5C then [0x5C, b]
  else if b < 0x20 ∨ b = 0x3C ∨ b = 0x3E ∨ b = 0x26 then
    [0x5C, 0x75, 0x30, 0x30, hexDigit (b / 16), hexDigit (b % 16)]
  else [b]

def quoted (s : List UInt8) : List UInt8 := 0x22 :: (s.flatMap escape ++ [0x22])

def member (m : Member) : List UInt8 :=
  ascii "\n  " ++ quoted m.1 ++ ascii ": " ++ quoted m.2

def lines : List Member → List UInt8
  | [] => []
  | [m] => member m ++ ascii "\n"
  | m :: m' :: ms => member m ++ ascii "," ++ lines (m' :: ms)

def write (ms : List Member) : List UInt8 := 0x7B :: (lines ms ++ [0x7D])

/-- What is expected next. -/
inductive Place
  | start | first | key | colon | value | next | done
  deriving DecidableEq, Repr

/-- Where in a string a reader is. -/
inductive Quote
  | plain
  | escape
  | unicode (digits : List ℕ)
  deriving DecidableEq, Repr

structure Reader where
  place : Place
  quote : Option Quote
  key : List UInt8
  text : List UInt8
  members : List Member
  deriving DecidableEq, Repr

namespace Reader

def init : Reader := ⟨.start, none, [], [], []⟩

variable (r : Reader)

def close : Reader :=
  if r.place = .value then
    { r with place := .next, quote := none, members := r.members ++ [(r.key, r.text)] }
  else { r with place := .colon, quote := none, key := r.text }

def inside : Quote → UInt8 → Option Reader
  | .plain, b =>
    if b = 0x22 then some r.close
    else if b = 0x5C then some { r with quote := some .escape }
    else if b < 0x20 then none
    else some { r with text := r.text ++ [b] }
  | .escape, b =>
    if b = 0x75 then some { r with quote := some (.unicode []) }
    else (unescape b).map fun c ↦ { r with quote := some .plain, text := r.text ++ [c] }
  | .unicode digits, b => do
    let digits := digits ++ [← hexValue b]
    if digits.length < 4 then return { r with quote := some (.unicode digits) }
    else
      let c := Char.ofNat (digits.foldl (16 * · + ·) 0)
      return { r with quote := some .plain, text := r.text ++ String.utf8EncodeChar c }

def outside (b : UInt8) : Option Reader :=
  if isSpace b then some r
  else
    match r.place with
    | .start => if b = 0x7B then some { r with place := .first } else none
    | .first =>
      if b = 0x7D then some { r with place := .done }
      else if b = 0x22 then some { r with place := .key, quote := some .plain, text := [] }
      else none
    | .key =>
      if b = 0x22 then some { r with quote := some .plain, text := [] } else none
    | .colon => if b = 0x3A then some { r with place := .value } else none
    | .value => if b = 0x22 then some { r with quote := some .plain, text := [] } else none
    | .next =>
      if b = 0x2C then some { r with place := .key }
      else if b = 0x7D then some { r with place := .done }
      else none
    | .done => none

def step (b : UInt8) : Option Reader :=
  match r.quote with
  | some q => r.inside q b
  | none => r.outside b

end Reader

def read (bs : List UInt8) : Option (List Member) := do
  let r ← bs.foldlM Reader.step Reader.init
  if r.quote = none ∧ r.place = .done then some r.members else none

/-! ## Reading what was written -/

theorem hexValue_hexDigit {n : UInt8} (hn : n.toNat < 16) :
    hexValue (hexDigit n) = some n.toNat := by
  have hall : ∀ k < 16, hexValue (hexDigit (UInt8.ofNat k)) = some k := by decide
  have hdigit := hall n.toNat hn
  rwa [UInt8.ofNat_toNat] at hdigit

theorem utf8EncodeChar_of_lt {b : UInt8} (hb : b < 128) :
    String.utf8EncodeChar (Char.ofNat b.toNat) = [b] := by
  have hall : ∀ n < 128, String.utf8EncodeChar (Char.ofNat n) = [UInt8.ofNat n] := by decide
  rw [hall b.toNat hb, UInt8.ofNat_toNat]

namespace Reader

variable {r : Reader}

theorem run_escape (hquote : r.quote = some .plain) (b : UInt8) :
    (escape b).foldlM step r = some { r with text := r.text ++ [b] } := by
  obtain ⟨place, quote, key, text, ms⟩ := r
  cases hquote
  rw [escape]
  split_ifs with hback hlong
  · obtain rfl | rfl := hback <;> rfl
  · -- What is written as a code is ASCII, so the code stands for this one byte.
    have hb : b < 128 := by
      obtain hlt | rfl | rfl | rfl := hlong
      · exact UInt8.lt_trans hlt (by decide)
      all_goals decide
    have hhigh : hexValue (hexDigit (b / 16)) = some (b.toNat / 16) :=
      hexValue_hexDigit (n := b / 16) (Nat.div_lt_of_lt_mul b.toNat_lt)
    have hlow : hexValue (hexDigit (b % 16)) = some (b.toNat % 16) :=
      hexValue_hexDigit (n := b % 16) (Nat.mod_lt _ (by decide))
    have hzero : hexValue 0x30 = some 0 := by decide
    simp [step, inside, hhigh, hlow, hzero, Nat.div_add_mod, utf8EncodeChar_of_lt hb]
  · simp only [not_or] at hback hlong
    simp [step, inside, hback, hlong]

theorem run_escaped (hquote : r.quote = some .plain) (s : List UInt8) :
    (s.flatMap escape).foldlM step r = some { r with text := r.text ++ s } := by
  induction s generalizing r with
  | nil => simp
  | cons b s ih =>
    rw [List.flatMap_cons, List.foldlM_append, run_escape hquote, Option.bind_eq_bind,
      Option.bind_some, ih (r := { r with text := r.text ++ [b] }) hquote]
    simp

/-- A string is read where one is expected. -/
theorem run_quoted (hquote : r.quote = none)
    (hplace : r.place = .first ∨ r.place = .key ∨ r.place = .value) (s : List UInt8) :
    (quoted s).foldlM step r = some (close { r with
      place := if r.place = .value then .value else .key
      quote := some .plain
      text := s }) := by
  obtain ⟨place, quote, key, text, ms⟩ := r
  cases hquote
  have hopen : step ⟨place, none, key, text, ms⟩ 0x22 =
      some ⟨if place = .value then .value else .key, some .plain, key, [], ms⟩ := by
    obtain h | h | h := hplace <;> cases h <;> rfl
  rw [quoted, List.foldlM_cons, hopen]
  simp only [Option.bind_eq_bind, Option.bind_some]
  rw [List.foldlM_append, run_escaped rfl]
  rfl

/-- A member is read at the start of an object, and behind a comma. -/
theorem run_member (hquote : r.quote = none) (hplace : r.place = .first ∨ r.place = .key)
    (m : Member) :
    ∃ r', (member m).foldlM step r = some r' ∧ r'.quote = none ∧ r'.place = .next ∧
      r'.members = r.members ++ [m] := by
  obtain ⟨place, quote, key, text, ms⟩ := r
  cases hquote
  have hspace : (ascii "\n  ").foldlM step ⟨place, none, key, text, ms⟩ =
      some ⟨place, none, key, text, ms⟩ := rfl
  have hne : place ≠ .value := by
    obtain h | h := hplace <;> cases h <;> exact nofun
  -- Blanks and the name, then the colon, then the value.
  rw [member, List.foldlM_append, List.foldlM_append, List.foldlM_append, hspace]
  simp only [Option.bind_eq_bind, Option.bind_some]
  rw [run_quoted rfl (hplace.imp_right .inl)]
  simp only [Option.bind_some, if_neg hne, close, reduceCtorEq, if_false]
  have hcolon : (ascii ": ").foldlM step ⟨.colon, none, m.1, m.1, ms⟩ =
      some ⟨.value, none, m.1, m.1, ms⟩ := rfl
  rw [hcolon, Option.bind_some, run_quoted rfl (.inr (.inr rfl))]
  exact ⟨_, rfl, rfl, rfl, rfl⟩

theorem run_lines (hquote : r.quote = none) (hplace : r.place = .first ∨ r.place = .key)
    {ms : List Member} (hms : ms ≠ []) :
    ∃ r', (lines ms ++ [0x7D]).foldlM step r = some r' ∧ r'.quote = none ∧ r'.place = .done ∧
      r'.members = r.members ++ ms := by
  induction ms using lines.induct generalizing r with
  | case1 => exact absurd rfl hms
  | case2 m =>
    obtain ⟨⟨place, quote, key, text, ms⟩, hrun, hquote', hplace', hms'⟩ :=
      run_member hquote hplace m
    cases hquote'
    cases hplace'
    refine ⟨⟨.done, none, key, text, ms⟩, ?_, rfl, rfl, hms'⟩
    rw [lines, List.append_assoc, List.foldlM_append, hrun]
    rfl
  | case3 m m' ms ih =>
    obtain ⟨⟨place, quote, key, text, ms'⟩, hrun, hquote', hplace', hms'⟩ :=
      run_member hquote hplace m
    cases hquote'
    cases hplace'
    obtain ⟨r'', hrun'', hquote'', hplace'', hms''⟩ :=
      ih (r := ⟨.key, none, key, text, ms'⟩) rfl (.inr rfl) (List.cons_ne_nil _ _)
    refine ⟨r'', ?_, hquote'', hplace'', ?_⟩
    · rw [lines, List.append_assoc, List.append_assoc, List.foldlM_append, hrun]
      exact hrun''
    · rw [hms'']
      dsimp only at hms' ⊢
      rw [hms', List.append_assoc]
      rfl

/-- Behind the object there are only blanks. -/
theorem isSpace_of_run_done (hquote : r.quote = none) (hplace : r.place = .done) {bs : List UInt8}
    {r' : Reader} (hrun : bs.foldlM step r = some r') : ∀ b ∈ bs, isSpace b = true := by
  induction bs with
  | nil => exact List.forall_mem_nil _
  | cons b bs ih =>
    have hstep : step r b = if isSpace b then some r else none := by
      rw [step, hquote]
      dsimp only
      rw [outside, hplace]
    rw [List.foldlM_cons, hstep] at hrun
    cases hb : isSpace b with
    | false => simp [hb] at hrun
    | true => exact List.forall_mem_cons.mpr ⟨hb, ih (by simpa [hb] using hrun)⟩

theorem run_write (ms : List Member) :
    ∃ r', (write ms).foldlM step init = some r' ∧ r'.quote = none ∧ r'.place = .done ∧
      r'.members = ms := by
  cases ms with
  | nil => exact ⟨_, rfl, rfl, rfl, rfl⟩
  | cons m ms =>
    exact run_lines (r := ⟨.first, none, [], [], []⟩) rfl (.inl rfl) (List.cons_ne_nil m ms)

end Reader

theorem read_write (ms : List Member) :
    read (write ms) = some ms := by
  obtain ⟨r', hrun, hquote, hplace, hmembers⟩ := Reader.run_write ms
  simp [read, hrun, hquote, hplace, hmembers]

theorem read_take_write {ms : List Member} {n : ℕ} (hn : n < (write ms).length) :
    read ((write ms).take n) = none := by
  obtain ⟨r', hrun, -⟩ := Reader.run_write ms
  rw [← List.take_append_drop n (write ms), List.foldlM_append] at hrun
  cases hr : ((write ms).take n).foldlM Reader.step Reader.init with
  | none => simp [read, hr]
  | some r =>
    have hrest : ((write ms).drop n).foldlM Reader.step r = some r' := by simpa [hr] using hrun
    -- The last brace is missing, and a reader that is done takes nothing but blanks.
    have hlast : 0x7D ∈ (write ms).drop n := by
      rw [write, ← List.cons_append] at hn ⊢
      rw [List.length_append, List.length_singleton] at hn
      rw [List.drop_append_of_le_length (by omega)]
      exact List.mem_append_right _ (List.mem_singleton_self _)
    have hdone : ¬(r.quote = none ∧ r.place = .done) := fun h ↦
      absurd (Reader.isSpace_of_run_done h.1 h.2 hrest 0x7D hlast) (by decide)
    simp only [read, hr, Option.bind_eq_bind, Option.bind_some, if_neg hdone]

end JsonText
