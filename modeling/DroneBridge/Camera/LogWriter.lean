import DroneBridge.Lib.Lines

/-!
# The log of a streamer process

The two outputs of a streamer process are written to a `processLogWriter` each, in pieces cut
anywhere. The writer keeps the bytes that no newline has ended yet in its buffer: a write appends
to the buffer, reads it line by line, and puts a last part without a newline back. A line is logged
trimmed, unless nothing is left of it.

A line may be any bytes. `TrimSpace` takes off the encoded forms of the space characters of
Unicode, and a byte that is not part of one ends it.
-/

namespace DroneBridge

abbrev Bytes := List UInt8

def newline : UInt8 := 0x0a

/-! ## Trimming -/

def unicodeSpaces : List Char :=
  [0x09, 0x0a, 0x0b, 0x0c, 0x0d, 0x20, 0x85, 0xa0, 0x1680, 0x2000, 0x2001, 0x2002, 0x2003, 0x2004,
    0x2005, 0x2006, 0x2007, 0x2008, 0x2009, 0x200a, 0x2028, 0x2029, 0x202f, 0x205f,
    0x3000].map Char.ofNat

def encodedSpaces : List Bytes := unicodeSpaces.map String.utf8EncodeChar

/-- The forms that trimming looks for. No form is empty, so that trimming ends. -/
abbrev SpaceForms := {forms : List Bytes // ∀ form ∈ forms, form ≠ []}

/-- What follows the first of `forms` that `s` begins with. -/
def afterSpace (forms : SpaceForms) (s : Bytes) : Option Bytes :=
  forms.1.findSome? fun form ↦ form.isPrefixOf? s

theorem eq_append_of_afterSpace {forms : SpaceForms} {s rest : Bytes}
    (h : afterSpace forms s = some rest) : ∃ form ∈ forms.1, s = form ++ rest := by
  obtain ⟨form, hmem, hform⟩ := List.exists_of_findSome?_eq_some h
  exact ⟨form, hmem, (List.isPrefixOf?_eq_some_iff_append_eq.mp hform).symm⟩

theorem length_lt_of_afterSpace {forms : SpaceForms} {s rest : Bytes}
    (h : afterSpace forms s = some rest) : rest.length < s.length := by
  obtain ⟨form, hmem, rfl⟩ := eq_append_of_afterSpace h
  have hpos : 0 < form.length := List.length_pos_of_ne_nil (forms.2 form hmem)
  rw [List.length_append]
  omega

/-- `TrimLeftFunc`: the spaces at the beginning go, one after the other. -/
def trimLeft (forms : SpaceForms) (s : Bytes) : Bytes :=
  match _h : afterSpace forms s with
  | some rest => trimLeft forms rest
  | none => s
termination_by s.length
decreasing_by exact length_lt_of_afterSpace _h

theorem trimLeft_of_some {forms : SpaceForms} {s rest : Bytes}
    (h : afterSpace forms s = some rest) : trimLeft forms s = trimLeft forms rest := by
  rw [trimLeft]
  split
  case h_1 rest' h' => rw [Option.some.inj (h.symm.trans h')]
  case h_2 h' => cases h.symm.trans h'

theorem trimLeft_of_none {forms : SpaceForms} {s : Bytes} (h : afterSpace forms s = none) :
    trimLeft forms s = s := by
  rw [trimLeft]
  split
  case h_1 rest' h' => cases h.symm.trans h'
  case h_2 h' => rfl

def leftSpaces : SpaceForms := ⟨encodedSpaces, by decide⟩

/-- The spaces as they are met from the right. -/
def rightSpaces : SpaceForms := ⟨encodedSpaces.map List.reverse, by decide⟩

def trimSpaceBytes (s : Bytes) : Bytes :=
  (trimLeft rightSpaces (trimLeft leftSpaces s).reverse).reverse

theorem eq_newline_of_mem_leftSpaces :
    ∀ form ∈ leftSpaces.1, newline ∈ form → form = [newline] := by
  decide

theorem isPrefixOf?_concat {form s : Bytes} {b : UInt8} (h : form ≠ s ++ [b]) :
    form.isPrefixOf? (s ++ [b]) = (form.isPrefixOf? s).map (· ++ [b]) := by
  ext rest
  rw [List.isPrefixOf?_eq_some_iff_append_eq, Option.map_eq_some_iff]
  constructor
  · intro happ
    rcases List.eq_nil_or_concat' rest with rfl | ⟨rest, c, rfl⟩
    · exact absurd (by rwa [List.append_nil] at happ) h
    · rw [← List.append_assoc] at happ
      obtain ⟨happ, hc⟩ := List.append_inj' happ rfl
      exact ⟨rest, List.isPrefixOf?_eq_some_iff_append_eq.mpr happ, by rw [hc]⟩
  · rintro ⟨rest, happ, rfl⟩
    rw [← List.append_assoc, List.isPrefixOf?_eq_some_iff_append_eq.mp happ]

theorem findSome?_congr {α β : Type*} {l : List α} {f g : α → Option β} (h : ∀ a ∈ l, f a = g a) :
    l.findSome? f = l.findSome? g := by
  induction l with
  | nil => rfl
  | cons a l ih =>
    obtain ⟨ha, hl⟩ := List.forall_mem_cons.mp h
    rw [List.findSome?_cons, List.findSome?_cons, ha, ih hl]

theorem afterSpace_concat_newline {s : Bytes} (hs : s ≠ []) :
    afterSpace leftSpaces (s ++ [newline]) = (afterSpace leftSpaces s).map (· ++ [newline]) := by
  rw [afterSpace, afterSpace, List.map_findSome?]
  refine findSome?_congr ?_
  intro form hmem
  refine isPrefixOf?_concat fun heq ↦ hs ?_
  have hform := eq_newline_of_mem_leftSpaces form hmem (by simp [heq])
  exact List.append_left_eq_self.mp (heq.symm.trans hform)

theorem trimLeft_newline : trimLeft leftSpaces [newline] = [] := by
  have hafter : afterSpace leftSpaces [newline] = some [] := by decide
  rw [trimLeft_of_some hafter, trimLeft_of_none (by decide)]

/-- From the left the newline at the end goes only when nothing stands before it any more. -/
theorem trimLeft_concat_newline (s : Bytes) :
    trimLeft leftSpaces (s ++ [newline]) =
      if trimLeft leftSpaces s = [] then [] else trimLeft leftSpaces s ++ [newline] := by
  induction h : s.length using Nat.strongRecOn generalizing s with
  | ind n ih =>
    rcases eq_or_ne s [] with rfl | hs
    · have hnil : trimLeft leftSpaces [] = [] := trimLeft_of_none (by decide)
      rw [List.nil_append, trimLeft_newline, if_pos hnil]
    · cases hafter : afterSpace leftSpaces s with
      | none =>
        have hconcat : afterSpace leftSpaces (s ++ [newline]) = none := by
          rw [afterSpace_concat_newline hs, hafter, Option.map_none]
        rw [trimLeft_of_none hconcat, trimLeft_of_none hafter, if_neg hs]
      | some rest =>
        have hconcat : afterSpace leftSpaces (s ++ [newline]) = some (rest ++ [newline]) := by
          rw [afterSpace_concat_newline hs, hafter, Option.map_some]
        rw [trimLeft_of_some hconcat, trimLeft_of_some hafter]
        exact ih rest.length (h ▸ length_lt_of_afterSpace hafter) rest rfl

theorem trimLeft_newline_cons (s : Bytes) :
    trimLeft rightSpaces (newline :: s) = trimLeft rightSpaces s :=
  trimLeft_of_some rfl

/-- **The newline that ends a line is trimmed with the spaces before it.** -/
theorem trimSpaceBytes_concat_newline (s : Bytes) :
    trimSpaceBytes (s ++ [newline]) = trimSpaceBytes s := by
  rw [trimSpaceBytes, trimSpaceBytes, trimLeft_concat_newline]
  split_ifs with h
  · rw [h]
  · rw [List.reverse_append, List.reverse_singleton, List.singleton_append, trimLeft_newline_cons]

/-! ## The writer -/

inductive LogLevel where
  | info
  | warn
  deriving DecidableEq, Repr

/-- A call of the logger, with the text that `%s %s` gives. -/
structure LogEntry where
  level : LogLevel
  text : Bytes
  deriving DecidableEq, Repr

structure ProcessLogWriter where
  logPrefix : Bytes
  isErr : Bool
  buf : Bytes
  deriving DecidableEq, Repr

/-- The writers that `startOnePythonStreamer` makes for the two outputs. -/
def streamerLogPrefix (camID : Int64) : Bytes :=
  (s!"[CAMERA][cam{camID}]".toList).flatMap String.utf8EncodeChar

def streamerStdout (camID : Int64) : ProcessLogWriter :=
  { logPrefix := streamerLogPrefix camID, isErr := false, buf := [] }

def streamerStderr (camID : Int64) : ProcessLogWriter :=
  { logPrefix := streamerLogPrefix camID, isErr := true, buf := [] }

/-- `ReadString` of a buffer: what is read, what stays, and whether the delimiter was found. -/
def readString (delim : UInt8) (buf : Bytes) : Bytes × Bytes × Bool :=
  match buf.dropWhile (· != delim) with
  | [] => (buf, [], false)
  | b :: rest => (buf.takeWhile (· != delim) ++ [b], rest, true)

theorem readString_of_notMem {delim : UInt8} {buf : Bytes} (h : delim ∉ buf) :
    readString delim buf = (buf, [], false) := by
  have hbuf : ∀ b ∈ buf, (b != delim) = true := fun b hb ↦ bne_iff_ne.mpr fun heq ↦ h (heq ▸ hb)
  have hdrop : (buf ++ []).dropWhile (· != delim) = [] := List.dropWhile_append_of_pos hbuf
  rw [List.append_nil] at hdrop
  rw [readString, hdrop]

theorem readString_line {delim : UInt8} {line : Bytes} (h : delim ∉ line) (rest : Bytes) :
    readString delim (line ++ delim :: rest) = (line ++ [delim], rest, true) := by
  have hline : ∀ b ∈ line, (b != delim) = true := fun b hb ↦ bne_iff_ne.mpr fun heq ↦ h (heq ▸ hb)
  rw [readString, List.dropWhile_append_of_pos hline, List.takeWhile_append_of_pos hline]
  simp

theorem length_lt_of_readString {delim : UInt8} {buf line rest : Bytes}
    (h : readString delim buf = (line, rest, true)) : rest.length < buf.length := by
  by_cases hmem : delim ∈ buf
  · obtain ⟨before, after, rfl, hbefore⟩ := List.eq_append_cons_of_mem hmem
    obtain ⟨-, rfl, -⟩ := Prod.ext_iff.mp ((readString_line hbefore after).symm.trans h)
    simp only [List.length_append, List.length_cons]
    omega
  · cases (readString_of_notMem hmem).symm.trans h

namespace ProcessLogWriter

variable (w : ProcessLogWriter)

/-- The call that logs a line. -/
def entry (line : Bytes) : LogEntry where
  level := if w.isErr then .warn else .info
  text := w.logPrefix ++ 0x20 :: line

/-- The loop of `Write`: what it logs, and the buffer it leaves. -/
def readLines (buf : Bytes) : List LogEntry × Bytes :=
  match _h : readString newline buf with
  | (line, buf, false) => ([], buf ++ line)
  | (line, buf, true) =>
    let line := trimSpaceBytes line
    if line = [] then readLines buf
    else (w.entry line :: (readLines buf).1, (readLines buf).2)
termination_by buf.length
decreasing_by all_goals exact length_lt_of_readString _h

/-- A write logs the lines that have ended, and returns the count of the bytes written. -/
def write (p : Bytes) : ProcessLogWriter × List LogEntry × ℕ :=
  let (entries, buf) := w.readLines (w.buf ++ p)
  ({ w with buf := buf }, entries, p.length)

/-- Writes one after the other, with all that they log. -/
def writeAll (w : ProcessLogWriter) : List Bytes → ProcessLogWriter × List LogEntry
  | [] => (w, [])
  | p :: ps =>
    let (w, entries, _) := w.write p
    let (w, later) := w.writeAll ps
    (w, entries ++ later)

/-- What is logged of the lines of a text, which stand here without their newlines. -/
def logged (lines : List Bytes) : List LogEntry :=
  ((lines.map trimSpaceBytes).filter (· ≠ [])).map w.entry

theorem logged_append (lines lines' : List Bytes) :
    w.logged (lines ++ lines') = w.logged lines ++ w.logged lines' := by
  simp [logged]

theorem readLines_of_notMem {buf : Bytes} (h : newline ∉ buf) : w.readLines buf = ([], buf) := by
  rw [readLines]
  split
  case h_1 line buf' hread =>
    obtain ⟨rfl, rfl, -⟩ := Prod.ext_iff.mp ((readString_of_notMem h).symm.trans hread)
    rfl
  case h_2 line buf' hread => cases (readString_of_notMem h).symm.trans hread

theorem readLines_line {line : Bytes} (h : newline ∉ line) (buf : Bytes) :
    w.readLines (line ++ newline :: buf) =
      (w.logged [line] ++ (w.readLines buf).1, (w.readLines buf).2) := by
  rw [readLines]
  split
  case h_1 line' buf' hread => cases (readString_line h buf).symm.trans hread
  case h_2 line' buf' hread =>
    obtain ⟨rfl, rfl, -⟩ := Prod.ext_iff.mp ((readString_line h buf).symm.trans hread)
    dsimp only
    rw [trimSpaceBytes_concat_newline]
    split_ifs with hempty <;> simp [logged, hempty]

/-- The loop logs the lines that have ended and leaves the rest. -/
theorem readLines_eq (buf : Bytes) :
    w.readLines buf = (w.logged (takeLines newline buf).1, (takeLines newline buf).2) := by
  induction buf using lines_induction newline with
  | rest s hs =>
    rw [readLines_of_notMem w hs, takeLines_of_notMem hs]
    rfl
  | line l s hl ih =>
    rw [readLines_line w hl, takeLines_cons hl, ih, ← logged_append, List.singleton_append]

/-- **The cuts between writes do not matter.** From a buffer without a newline, which is what every
write leaves, the writes log what one write of all their bytes would. -/
theorem writeAll_eq {w : ProcessLogWriter} (hbuf : newline ∉ w.buf) (ps : List Bytes) :
    w.writeAll ps =
      ({ w with buf := (takeLines newline (w.buf ++ ps.flatten)).2 },
        w.logged (takeLines newline (w.buf ++ ps.flatten)).1) := by
  induction ps generalizing w with
  | nil =>
    rw [List.flatten_nil, List.append_nil, takeLines_of_notMem hbuf]
    rfl
  | cons p ps ih =>
    have hwrite : w.write p = ({ w with buf := (takeLines newline (w.buf ++ p)).2 },
        w.logged (takeLines newline (w.buf ++ p)).1, p.length) := by
      rw [write, readLines_eq]
    rw [writeAll, hwrite]
    dsimp only
    rw [ih (notMem_takeLines_snd _), List.flatten_cons, ← List.append_assoc,
      takeLines_append (w.buf ++ p)]
    rw [logged_append]
    rfl

/-- **What a streamer writes is logged line by line.** However the output is cut into writes, its
ended lines are logged, trimmed and without the empty ones, and the rest is kept. -/
theorem log_of_writes (logPrefix : Bytes) (isErr : Bool) (ps : List Bytes) :
    let w : ProcessLogWriter := ⟨logPrefix, isErr, []⟩
    let lines := ps.flatten.splitOn newline
    w.writeAll ps =
        (⟨logPrefix, isErr, lines.getLast (List.splitOn_ne_nil newline ps.flatten)⟩,
          ((lines.dropLast.map trimSpaceBytes).filter (· ≠ [])).map w.entry) ∧
      w.writeAll ps = ((w.write ps.flatten).1, (w.write ps.flatten).2.1) := by
  have hempty : newline ∉ (⟨logPrefix, isErr, []⟩ : ProcessLogWriter).buf := List.not_mem_nil
  refine ⟨writeAll_eq hempty ps, ?_⟩
  rw [writeAll_eq hempty ps, write, readLines_eq]

end ProcessLogWriter

end DroneBridge
