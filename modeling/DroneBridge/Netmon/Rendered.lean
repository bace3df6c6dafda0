import DroneBridge.Lib.YamlText
import DroneBridge.Netmon.Routing
import Mathlib.Data.List.TakeWhile

/-!
# How the monitor reads a rendered tree

The lines of a tree in block style are such that the monitor finds the section `network`, sees its
entries one by one and leaves it at the next key of the document. So it reads the text after the
colon of the entry with the key, provided that the section has scalars on one line only.
-/

namespace DroneBridge

open Yaml (Emitter IsLine isPlainKey)

/-! ## Lines -/

theorem splitLines_cons_line {l : Text} (hl : IsLine l) (rest : Text) :
    splitLines (l ++ '\n' :: rest) = l :: splitLines rest := by
  induction l with
  | nil => rfl
  | cons c l ih =>
    have hc : c ≠ '\n' ∧ c ≠ '\r' := by simp_all [IsLine, eq_comm]
    have hl' : IsLine l := by simp_all [IsLine]
    rw [List.cons_append, splitLines.eq_def]
    split
    all_goals simp_all

theorem splitLines_flatMap {ls : List Text} (h : ∀ l ∈ ls, IsLine l) :
    splitLines (ls.flatMap (· ++ ['\n'])) = ls := by
  induction ls with
  | nil => rfl
  | cons l ls ih =>
    obtain ⟨hl, hls⟩ := List.forall_mem_cons.mp h
    rw [List.flatMap_cons, List.append_assoc, List.singleton_append, splitLines_cons_line hl,
      ih hls]

/-! ## Keys -/

theorem isSpace_of_letter {c : Char}
    (h : ('A'.toNat ≤ c.toNat ∧ c.toNat ≤ 'Z'.toNat) ∨ ('a'.toNat ≤ c.toNat ∧ c.toNat ≤ 'z'.toNat) ∨
      ('0'.toNat ≤ c.toNat ∧ c.toNat ≤ '9'.toNat)) : isSpace c = false := by
  have hcode : 48 ≤ c.toNat ∧ c.toNat ≤ 122 := by
    obtain h | h | h := h
    · exact ⟨le_trans (by decide) h.1, le_trans h.2 (by decide)⟩
    · exact ⟨le_trans (by decide) h.1, le_trans h.2 (by decide)⟩
    · exact ⟨le_trans (by decide) h.1, le_trans h.2 (by decide)⟩
  simp only [isSpace, Bool.or_eq_false_iff, Bool.and_eq_false_iff, decide_eq_false_iff_not]
  omega

theorem colon_prefix_iff {name key rest : Text} (hname : ':' ∉ name) (hkey : ':' ∉ key) :
    name ++ [':'] <+: key ++ ':' :: rest ↔ name = key := by
  induction name generalizing key with
  | nil =>
    cases key with
    | nil => simp
    | cons c key => simp_all
  | cons d name ih =>
    obtain ⟨hd, hname⟩ := not_or.mp (mt List.mem_cons.mpr hname)
    cases key with
    | nil => simp [Ne.symm hd]
    | cons c key =>
      obtain ⟨-, hkey⟩ := not_or.mp (mt List.mem_cons.mpr hkey)
      rw [List.cons_append, List.cons_append, List.cons_prefix_cons, ih hname hkey, List.cons.injEq]

theorem colon_not_mem_of_plain {k : String} (h : isPlainKey k = true) : ':' ∉ k.toList := by
  intro hcolon
  simp only [isPlainKey, Bool.and_eq_true, List.all_eq_true] at h
  exact absurd (h.1.2 ':' hcolon) (by decide)

theorem head_of_plain {k : String} (h : isPlainKey k = true) :
    ∃ c cs, k.toList = c :: cs ∧ isSpace c = false := by
  simp only [isPlainKey, Bool.and_eq_true] at h
  obtain ⟨⟨hhead, -⟩, -⟩ := h
  cases hk : k.toList with
  | nil => simp [hk] at hhead
  | cons c cs =>
    refine ⟨c, cs, rfl, ?_⟩
    have hlower : c.isLower = true := by simpa [hk] using hhead
    have hletter : (decide (c.val ≥ 'a'.val) && decide (c.val ≤ 'z'.val)) = true := hlower
    simp only [Bool.and_eq_true, decide_eq_true_eq, ge_iff_le, UInt32.le_iff_toNat_le] at hletter
    exact isSpace_of_letter (.inr (.inl hletter))

/-! ## Lines of a document -/

section

variable {E : Emitter} {k : String} {es : List (String × Yaml)}

theorem isSectionHeader_of_ne (hk : isPlainKey k = true) (hne : k ≠ "network") (rest : Text) :
    isSectionHeader "network".toList (k.toList ++ ':' :: rest) = false := by
  rw [isSectionHeader, Bool.and_eq_false_iff]
  left
  rw [← Bool.not_eq_true, List.isPrefixOf_iff_prefix,
    colon_prefix_iff (by decide) (colon_not_mem_of_plain hk)]
  exact fun heq ↦ hne (String.toList_inj.mp heq).symm

theorem indent_eq (n : ℕ) (l : Text) :
    Yaml.indent (n + 1) l = [] ∨ ∃ rest, Yaml.indent (n + 1) l = ' ' :: rest := by
  rw [Yaml.indent]
  split
  · exact .inl rfl
  · exact .inr ⟨List.replicate n ' ' ++ l, by rw [List.replicate_succ, List.cons_append]⟩

theorem isSectionHeader_indent (n : ℕ) (l : Text) :
    isSectionHeader "network".toList (Yaml.indent (n + 1) l) = false := by
  obtain h | ⟨rest, h⟩ := indent_eq n l <;> rw [h] <;> rfl

theorem endsSection_indent (n : ℕ) (l : Text) : endsSection (Yaml.indent (n + 1) l) = false := by
  obtain h | ⟨rest, h⟩ := indent_eq n l <;> rw [h] <;> rfl

theorem entries_cons (v : Yaml) :
    E.entries 0 ((k, v) :: es) =
      ((E.key k ++ ':' :: (E.value v (E.block 4 v)).1) ::
        (E.value v (E.block 4 v)).2.map (Yaml.indent 4)) ++ E.entries 0 es := by
  rw [Emitter.entries]
  rfl

theorem isSectionHeader_entries (h : ∀ e ∈ es, isPlainKey e.1 = true ∧ e.1 ≠ "network") :
    ∀ l ∈ E.entries 0 es, isSectionHeader "network".toList l = false := by
  induction es with
  | nil => exact fun _ hl ↦ absurd hl List.not_mem_nil
  | cons e es ih =>
    obtain ⟨⟨hk, hne⟩, hes⟩ := List.forall_mem_cons.mp h
    rw [entries_cons, List.forall_mem_append, List.forall_mem_cons, E.key_plain _ hk]
    refine ⟨⟨isSectionHeader_of_ne hk hne _, fun l hl ↦ ?_⟩, ih hes⟩
    obtain ⟨l', -, rfl⟩ := List.mem_map.mp hl
    exact isSectionHeader_indent 3 l'

theorem endsSection_head_entries (h : ∀ e ∈ es, isPlainKey e.1 = true) :
    ∀ l ∈ (E.entries 0 es).head?, endsSection l = true := by
  cases es with
  | nil => exact nofun
  | cons e es =>
    have hk := h e List.mem_cons_self
    obtain ⟨c, cs, hcs, hspace⟩ := head_of_plain hk
    rw [entries_cons, E.key_plain _ hk, hcs]
    rintro l ⟨⟩
    simp [endsSection, hspace]

/-! ## The section -/

/-- Entries of scalars that take one line each. -/
def FlatSection (E : Emitter) (es : List (String × Yaml)) : Prop :=
  ∀ e ∈ es, isPlainKey e.1 = true ∧ e.2.isScalar = true ∧ (E.scalar e.2).2 = []

def entryLine (E : Emitter) (e : String × Yaml) : Text :=
  e.1.toList ++ ':' :: ' ' :: (E.scalar e.2).1

theorem entries_flat (h : FlatSection E es) (n : ℕ) : E.entries n es = es.map (entryLine E) := by
  induction es with
  | nil => rfl
  | cons e es ih =>
    obtain ⟨⟨hk, hscalar, hmore⟩, hes⟩ := List.forall_mem_cons.mp h
    obtain ⟨k, v⟩ := e
    have hvalue : ∀ nested, E.value v nested = (' ' :: (E.scalar v).1, []) := by
      intro nested
      rw [← hmore]
      cases v <;> first | rfl | exact nomatch hscalar
    rw [Emitter.entries, ih hes, hvalue, E.key_plain k hk]
    rfl

theorem fieldText_entryLine {key : Text} (hkey : ':' ∉ key) (e : String × Yaml)
    (hk : isPlainKey e.1 = true) :
    fieldText key (Yaml.indent 4 (entryLine E e)) =
      if key = e.1.toList then some ((E.scalar e.2).1.dropWhile isSpace) else none := by
  obtain ⟨c, cs, hcs, hspace⟩ := head_of_plain hk
  have hindent : Yaml.indent 4 (entryLine E e) = ' ' :: ' ' :: ' ' :: ' ' :: entryLine E e := by
    rw [Yaml.indent, if_neg (by simp [entryLine])]
    rfl
  have hdrop : (Yaml.indent 4 (entryLine E e)).dropWhile isSpace = entryLine E e := by
    have hhead : entryLine E e = c :: (cs ++ ':' :: ' ' :: (E.scalar e.2).1) := by
      rw [entryLine, hcs, List.cons_append]
    have hblank : isSpace ' ' = true := by decide
    rw [hindent, hhead]
    simp [hblank, hspace]
  have hfirst : (Yaml.indent 4 (entryLine E e)).head?.any isSpace = true := by
    rw [hindent]
    rfl
  -- Behind the blanks stands the key of the line, which ends at the only colon before it.
  rw [fieldText, hdrop, hfirst, Bool.true_and, entryLine]
  simp only [List.isPrefixOf_iff_prefix, colon_prefix_iff hkey (colon_not_mem_of_plain hk)]
  split
  next heq =>
    have hblank : isSpace ' ' = true := by decide
    rw [heq, ← List.singleton_append, ← List.append_assoc, List.drop_left' (by simp)]
    simp [hblank]
  next => rfl

/-- With different keys the first entry with a key is the only one. -/
theorem findSome?_entries {α : Type} {key : String} {f : Yaml → Option α}
    {g : String × Yaml → Option α} (hnodup : (es.map Prod.fst).Nodup)
    (hg : ∀ e ∈ es, g e = if key = e.1 then f e.2 else none) :
    es.findSome? g = (es.lookup key).bind f := by
  induction es with
  | nil => rfl
  | cons e es ih =>
    obtain ⟨hk, hes⟩ := List.nodup_cons.mp hnodup
    obtain ⟨hge, hges⟩ := List.forall_mem_cons.mp hg
    rw [List.findSome?_cons, List.lookup_cons, hge]
    by_cases heq : key = e.1
    · have hrest : es.findSome? g = none := by
        rw [List.findSome?_eq_none_iff]
        intro e' he'
        rw [hges e' he', if_neg]
        intro hkey
        exact hk (List.mem_map.mpr ⟨e', he', hkey.symm.trans heq⟩)
      rw [if_pos heq, hrest, beq_iff_eq.mpr heq]
      cases hv : f e.2 <;> simp [hv]
    · rw [if_neg heq, ih hes hges, beq_eq_false_iff_ne.mpr heq]

/-- What is read of such a section: the text after the colon of the entry with the key. -/
theorem findSome?_flat {key : String} {p : Char → Bool} (hflat : FlatSection E es)
    (hnodup : (es.map Prod.fst).Nodup) (hkey : isPlainKey key = true) :
    ((E.entries 4 es).map (Yaml.indent 4)).findSome?
        (fun line ↦ (fieldText key.toList line).bind (leading p)) =
      (es.lookup key).bind fun v ↦ leading p ((E.scalar v).1.dropWhile isSpace) := by
  rw [entries_flat hflat 4, List.map_map, List.findSome?_map]
  refine findSome?_entries hnodup fun e he ↦ ?_
  dsimp only [Function.comp_apply]
  rw [fieldText_entryLine (colon_not_mem_of_plain hkey) e (hflat e he).1]
  by_cases heq : key = e.1
  · rw [if_pos heq, if_pos (congrArg String.toList heq)]
    rfl
  · rw [if_neg heq, if_neg fun hlist ↦ heq (String.toList_inj.mp hlist)]
    rfl

/-- **Reading a rendered section.** The first match among the lines of the section counts. -/
theorem readNetwork_render {α : Type} {before after : List (String × Yaml)}
    (field : Text → Option α) (hbefore : ∀ e ∈ before, isPlainKey e.1 = true ∧ e.1 ≠ "network")
    (hafter : ∀ e ∈ after, isPlainKey e.1 = true ∧ e.1 ≠ "network") (hne : es ≠ []) :
    readNetwork field [E.render (.map (before ++ ("network", .map es) :: after))] =
      ((E.entries 4 es).map (Yaml.indent 4)).findSome? field := by
  obtain ⟨e, es', rfl⟩ := List.exists_cons_of_ne_nil hne
  have hlines : E.block 0 (.map (before ++ ("network", .map (e :: es')) :: after)) =
      E.entries 0 before ++ "network:".toList ::
        ((E.entries 4 (e :: es')).map (Yaml.indent 4) ++ E.entries 0 after) := by
    rw [Emitter.block, Emitter.entries_append, entries_cons, E.key_plain _ (by decide)]
    rfl
  have hheader : isSectionHeader "network".toList "network:".toList = true := by decide
  rw [readNetwork, List.map_singleton, SectionScan.scanAll_singleton, Emitter.render,
    splitLines_flatMap (Emitter.isLine_block 0 _), hlines,
    SectionScan.scan_section (isSectionHeader_entries hbefore) hheader ?_
      (isSectionHeader_entries hafter) (endsSection_head_entries fun e he ↦ (hafter e he).1)]
  · rfl
  · intro l hl
    obtain ⟨l', -, rfl⟩ := List.mem_map.mp hl
    exact ⟨isSectionHeader_indent 3 l', endsSection_indent 3 l'⟩

end

/-! ## Values -/

theorem isSpace_of_isDigit {c : Char} (h : isDigit c = true) : isSpace c = false := by
  refine isSpace_of_letter (.inr (.inr ?_))
  simpa [isDigit, Char.le_def, UInt32.le_iff_toNat_le] using h

/-- A text without spaces, all of whose characters are wanted, is read as a whole. -/
theorem leading_eq_self {p : Char → Bool} {t : Text} (hne : t ≠ [])
    (h : ∀ c ∈ t, p c = true ∧ isSpace c = false) : leading p (t.dropWhile isSpace) = some t := by
  obtain ⟨c, cs, rfl⟩ := List.exists_cons_of_ne_nil hne
  have hspace := (h c List.mem_cons_self).2
  have hall : (c :: cs).takeWhile p = c :: cs :=
    List.takeWhile_eq_self_iff.mpr fun d hd ↦ (h d hd).1
  rw [List.dropWhile_cons_of_neg (by simp [hspace]), leading, hall, if_neg (List.cons_ne_nil c cs)]

/-- What is read of a number: its value, unless it is negative. -/
theorem leading_toString (n : ℤ) :
    (leading isDigit ((toString n).toList.dropWhile isSpace)).map decimal =
      if 0 ≤ n then some n.toNat else none := by
  cases n with
  | ofNat m =>
    have hdigits : ∀ c ∈ Nat.toDigits 10 m, isDigit c = true ∧ isSpace c = false := by
      intro c hc
      have hdigit : isDigit c = true := Nat.isDigit_of_mem_toDigits (by decide) (by decide) hc
      exact ⟨hdigit, isSpace_of_isDigit hdigit⟩
    have htext : (toString (Int.ofNat m)).toList = Nat.toDigits 10 m :=
      Emitter.toList_toString_nat m
    have hvalue : decimal (Nat.toDigits 10 m) = m := by
      rw [decimal, ← Nat.ofDigitChars_eq_foldl, Nat.ofDigitChars_ten_toDigits]
    have hpos : 0 ≤ Int.ofNat m := Int.natCast_nonneg m
    rw [htext, leading_eq_self Nat.toDigits_ne_nil hdigits, Option.map_some, hvalue, if_pos hpos]
    rfl
  | negSucc m =>
    have htext : (toString (Int.negSucc m)).toList = '-' :: (toString (m + 1)).toList :=
      Emitter.toList_toString_negSucc m
    have hdash : isSpace '-' = false := by decide
    have hdigit : isDigit '-' = false := by decide
    rw [htext, List.dropWhile_cons_of_neg (by simp [hdash]), leading, if_pos (by simp [hdigit])]
    rfl

/-! ## The text of a setting -/

def modeOfText (t : Text) : Option String :=
  (leading (fun c ↦ !isSpace c) (t.dropWhile isSpace)).map fun w ↦ String.ofList (stripQuotes w)

def delayOfText (t : Text) : Option ℕ := (leading isDigit (t.dropWhile isSpace)).map decimal

/-- What the monitor reads as the fallback flag. -/
def cloudOfText (t : Text) : Option Bool :=
  (leading (fun c ↦ !isSpace c) (t.dropWhile isSpace)).map isTrueWord

/-! ## Words -/

theorem stripChar_eq_self {c : Char} {t : Text} (h : c ∉ t) : stripChar c t = t := by
  have hdrop : ∀ {u : Text}, c ∉ u → u.dropWhile (· = c) = u := by
    intro u hu
    cases u with
    | nil => rfl
    | cons d u =>
      have hd : d ≠ c := fun heq ↦ hu (heq ▸ List.mem_cons_self)
      rw [List.dropWhile_cons_of_neg (by simpa using hd)]
  rw [stripChar, hdrop h, hdrop (by simpa using h), List.reverse_reverse]

theorem stripChar_quoted {c : Char} {t : Text} (h : c ∉ t) :
    stripChar c (c :: (t ++ [c])) = t := by
  have hself := stripChar_eq_self h
  rw [stripChar] at hself ⊢
  rw [List.dropWhile_cons_of_pos (by simp)]
  cases t with
  | nil => simp
  | cons d t =>
    have hd : d ≠ c := fun heq ↦ h (heq ▸ List.mem_cons_self)
    rw [List.cons_append, List.dropWhile_cons_of_neg (by simpa using hd)] at *
    rw [List.reverse_cons, List.reverse_append, List.reverse_singleton, List.singleton_append,
      List.cons_append, List.dropWhile_cons_of_pos (by simp), ← List.reverse_cons]
    exact hself

theorem isWord_chars {s : String} (h : Yaml.isWord s = true) :
    ∀ c ∈ s.toList, isSpace c = false ∧ c ≠ '"' ∧ c ≠ '\'' := by
  intro c hc
  have hword := List.all_eq_true.mp h c hc
  refine ⟨?_, ?_, ?_⟩
  · have hclass : (((decide (c.val ≥ 'A'.val ∧ c.val ≤ 'Z'.val) ||
        (decide (c.val ≥ 'a'.val) && decide (c.val ≤ 'z'.val))) ||
        (decide (c.val ≥ '0'.val) && decide (c.val ≤ '9'.val))) ||
        decide (c = '_') || decide (c = '-') || decide (c = '.')) = true := hword
    simp only [Bool.or_eq_true, Bool.and_eq_true, decide_eq_true_eq, ge_iff_le,
      UInt32.le_iff_toNat_le] at hclass
    obtain (((((h | h) | h) | rfl) | rfl) | rfl) := hclass
    · exact isSpace_of_letter (.inl h)
    · exact isSpace_of_letter (.inr (.inl h))
    · exact isSpace_of_letter (.inr (.inr h))
    all_goals decide
  · rintro rfl
    exact absurd hword (by decide)
  · rintro rfl
    exact absurd hword (by decide)

theorem stripQuotes_eq_self {t : Text} (hdouble : '"' ∉ t) (hsingle : '\'' ∉ t) :
    stripQuotes t = t := by
  rw [stripQuotes, stripChar_eq_self hdouble, stripChar_eq_self hsingle]

/-- A word is read as a whole, and without quotes it is the word that was written. -/
theorem leading_str (E : Emitter) {s : String} (hs : Yaml.isWord s = true) :
    ∃ w, leading (fun c ↦ !isSpace c) ((E.str s).1.dropWhile isSpace) = some w ∧
      stripQuotes w = s.toList ∧ stripQuotes s.toList = s.toList := by
  have hchars := isWord_chars hs
  have hdouble : '"' ∉ s.toList := fun hc ↦ (hchars _ hc).2.1 rfl
  have hsingle : '\'' ∉ s.toList := fun hc ↦ (hchars _ hc).2.2 rfl
  have hstrip := stripQuotes_eq_self hdouble hsingle
  have hread : ∀ c, isSpace c = false → (!isSpace c) = true ∧ isSpace c = false := by
    intro c hc
    exact ⟨by rw [hc]; rfl, hc⟩
  obtain ⟨hne, htext⟩ | htext := E.str_word s hs
  · have hne : s.toList ≠ [] := fun hnil ↦ hne (String.toList_eq_nil_iff.mp hnil)
    refine ⟨s.toList, ?_, hstrip, hstrip⟩
    rw [htext, leading_eq_self hne fun c hc ↦ hread c (hchars c hc).1]
  · have hspace : ∀ c ∈ '"' :: (s.toList ++ ['"']), isSpace c = false := by
      have hquote : isSpace '"' = false := by decide
      intro c hc
      simp only [List.mem_cons, List.mem_append, List.not_mem_nil, or_false] at hc
      obtain rfl | hc | rfl := hc
      · exact hquote
      · exact (hchars c hc).1
      · exact hquote
    refine ⟨'"' :: (s.toList ++ ['"']), ?_, ?_, hstrip⟩
    · rw [htext, leading_eq_self (List.cons_ne_nil _ _) fun c hc ↦ hread c (hspace c hc)]
    · rw [stripQuotes, stripChar_quoted hdouble, stripChar_eq_self hsingle]

theorem modeOfText_str (E : Emitter) {s : String} (hs : Yaml.isWord s = true) :
    modeOfText (E.str s).1 = some s := by
  obtain ⟨w, hw, hstrip, -⟩ := leading_str E hs
  rw [modeOfText, hw, Option.map_some, hstrip, String.ofList_toList]

theorem cloudOfText_null (E : Emitter) : cloudOfText (E.scalar .null).1 = some false :=
  (by decide : cloudOfText "null".toList = some false)

theorem cloudOfText_bool (E : Emitter) (b : Bool) :
    cloudOfText (E.scalar (.bool b)).1 = some b := by
  cases b with
  | false => exact (by decide : cloudOfText "false".toList = some false)
  | true => exact (by decide : cloudOfText "true".toList = some true)

/-! ## The settings as a whole -/

/-- The settings when the three values are as given, or not given. -/
def settingsOf (env : NetmonEnv) (mode : Option String) (delay : Option ℕ) (cloud : Option Bool) :
    NetmonSettings where
  mode := mode.getD "prefer_4g"
  force4gOnly :=
    match env.force4gOnly with
    | some t => !isFalseEnv t
    | none => mode.getD "prefer_4g" = "4g_only"
  fallbackDelay := delay.getD 300
  cloudWifiFallback :=
    match env.cloudWifiFallback with
    | some t => !isFalseEnv t
    | none => cloud.getD true

/-- The settings that the monitor reads of the lines of the section. -/
def linesSettings (env : NetmonEnv) (lines : List Text) : NetmonSettings :=
  settingsOf env
    ((lines.findSome? (wordField "mode".toList)).map fun t ↦ String.ofList (stripQuotes t))
    ((lines.findSome? (digitsField "fallback_delay".toList)).map decimal)
    ((lines.findSome? (wordField "cloud_wifi_fallback".toList)).map isTrueWord)

theorem netmonSettings_render {E : Emitter} (env : NetmonEnv)
    {es before after : List (String × Yaml)}
    (hbefore : ∀ e ∈ before, isPlainKey e.1 = true ∧ e.1 ≠ "network")
    (hafter : ∀ e ∈ after, isPlainKey e.1 = true ∧ e.1 ≠ "network") (hne : es ≠ []) :
    netmonSettings env [E.render (.map (before ++ ("network", .map es) :: after))] =
      linesSettings env ((E.entries 4 es).map (Yaml.indent 4)) := by
  set lines := (E.entries 4 es).map (Yaml.indent 4) with hlines
  set file := E.render (.map (before ++ ("network", .map es) :: after)) with hfile
  have hread {α : Type} (field : Text → Option α) :
      readNetwork field [file] = lines.findSome? field :=
    readNetwork_render field hbefore hafter hne
  have hmode : loadNetworkMode [file] = (linesSettings env lines).mode := by
    rw [loadNetworkMode, hread]
    rfl
  have hdelay : loadFallbackDelay [file] = (linesSettings env lines).fallbackDelay := by
    rw [loadFallbackDelay, hread]
    rfl
  have hcloud : loadCloudWifiFallback env [file] =
      (linesSettings env lines).cloudWifiFallback := by
    rw [loadCloudWifiFallback, hread]
    rfl
  have hforce : force4gOnlyFromPolicy env [file] = (linesSettings env lines).force4gOnly := by
    rw [force4gOnlyFromPolicy, hmode]
    rfl
  rw [netmonSettings, hmode, hdelay, hcloud, hforce]

end DroneBridge
