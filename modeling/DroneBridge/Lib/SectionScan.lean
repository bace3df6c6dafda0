import Mathlib.Data.List.Basic

/-!
# Scanning a text of sections, line by line

A scan looks for a field inside one section of a text. It enters the section at a header line,
leaves it at a line that ends sections, and stops at the first line inside that has the field.
Several texts are scanned one after the other, and a scan may enter a text inside the section.
-/

structure SectionScan (L α : Type*) where
  isHeader : L → Bool
  ends : L → Bool
  field : L → Option α

namespace SectionScan

variable {L α : Type*} (S : SectionScan L α)

/-- The field, and whether the scan is inside the section where it stops. -/
def scan : Bool → List L → Option α × Bool
  | inside, [] => (none, inside)
  | inside, l :: ls =>
    if S.isHeader l then scan true ls
    else if inside && !S.ends l then
      match S.field l with
      | some a => (some a, true)
      | none => scan true ls
    else scan false ls

/-- The first field found in several texts. -/
def scanAll : Bool → List (List L) → Option α
  | _, [] => none
  | inside, t :: ts =>
    match S.scan inside t with
    | (some a, _) => some a
    | (none, inside) => scanAll inside ts

theorem scanAll_singleton (inside : Bool) (t : List L) :
    S.scanAll inside [t] = (S.scan inside t).1 := by
  rw [scanAll]
  rcases S.scan inside t with ⟨_ | a, b⟩ <;> rfl

variable {S} {ls : List L}

/-- A scan that has found the field stops; otherwise it goes on where it stands. -/
theorem scan_append (inside : Bool) (ls ms : List L) :
    S.scan inside (ls ++ ms) =
      match S.scan inside ls with
      | (some a, inside') => (some a, inside')
      | (none, inside') => S.scan inside' ms := by
  induction ls generalizing inside with
  | nil => rfl
  | cons l ls ih =>
    rw [List.cons_append, scan, scan]
    split_ifs
    · exact ih true
    · cases S.field l with
      | none => exact ih true
      | some a => rfl
    · exact ih false

theorem scan_outside (h : ∀ l ∈ ls, S.isHeader l = false) : S.scan false ls = (none, false) := by
  induction ls with
  | nil => rfl
  | cons l ls ih =>
    obtain ⟨hl, hls⟩ := List.forall_mem_cons.mp h
    simp [scan, hl, ih hls]

/-- Inside the section the first line with the field counts. -/
theorem scan_inside (h : ∀ l ∈ ls, S.isHeader l = false ∧ S.ends l = false) :
    S.scan true ls = (ls.findSome? S.field, true) := by
  induction ls with
  | nil => rfl
  | cons l ls ih =>
    obtain ⟨⟨hheader, hends⟩, hls⟩ := List.forall_mem_cons.mp h
    rw [scan, hheader, hends, ih hls, List.findSome?_cons]
    cases S.field l <;> rfl

theorem scan_after (h : ∀ l ∈ ls, S.isHeader l = false) (hends : ∀ l ∈ ls.head?, S.ends l = true)
    (inside : Bool) : (S.scan inside ls).1 = none := by
  cases ls with
  | nil => rfl
  | cons l ls =>
    obtain ⟨hheader, hls⟩ := List.forall_mem_cons.mp h
    have hl : S.ends l = true := hends l rfl
    simp [scan, hheader, hl, scan_outside hls]

/-- **One section.** In a text with one section the first line of its body with the field counts. -/
theorem scan_section {before body after : List L} {header : L}
    (hbefore : ∀ l ∈ before, S.isHeader l = false) (hheader : S.isHeader header = true)
    (hbody : ∀ l ∈ body, S.isHeader l = false ∧ S.ends l = false)
    (hafter : ∀ l ∈ after, S.isHeader l = false)
    (hends : ∀ l ∈ after.head?, S.ends l = true) :
    (S.scan false (before ++ header :: (body ++ after))).1 = body.findSome? S.field := by
  have henter : S.scan false (header :: (body ++ after)) = S.scan true (body ++ after) := by
    rw [scan, if_pos hheader]
  rw [scan_append, scan_outside hbefore]
  dsimp only
  rw [henter, scan_append, scan_inside hbody]
  cases body.findSome? S.field with
  | none => exact scan_after hafter hends true
  | some a => rfl

end SectionScan
