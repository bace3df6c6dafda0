import Mathlib.Data.List.Basic
import Mathlib.Logic.Function.Basic

/-!
# Tables of handles

A table maps keys to handles of resources that are opened and closed. Handles are numbered in the
order in which they were opened, and the table remembers how often each was closed. A table is
coherent when the open handles are exactly its entries, one for each key, and no handle was closed
twice. Opening under a key that has no entry, closing the entry of a key and moving it to a key that
has none keep a table coherent.
-/

structure HandleTable (κ : Type*) where
  current : κ → Option ℕ
  /-- How often each handle was closed. -/
  closes : List ℕ

namespace HandleTable

variable {κ : Type*} [DecidableEq κ]

def empty : HandleTable κ := ⟨fun _ ↦ none, []⟩

variable (t : HandleTable κ)

def Open (h : ℕ) : Prop := t.closes[h]? = some 0

instance (h : ℕ) : Decidable (t.Open h) := inferInstanceAs (Decidable (_ = _))

/-- The number of the next handle. -/
def next : ℕ := t.closes.length

def insert (k : κ) : HandleTable κ :=
  ⟨Function.update t.current k (some t.next), t.closes ++ [0]⟩

def close (k : κ) : HandleTable κ :=
  match t.current k with
  | none => t
  | some h => ⟨Function.update t.current k none, t.closes.modify h (· + 1)⟩

/-- The entry of a key goes to another one. -/
def move (k k' : κ) : HandleTable κ :=
  { t with current := Function.update (Function.update t.current k' (t.current k)) k none }

structure Coherent : Prop where
  isOpen : ∀ k h, t.current k = some h → t.Open h
  inj : ∀ k k' h, t.current k = some h → t.current k' = some h → k = k'
  listed : ∀ h, t.Open h → ∃ k, t.current k = some h
  once : ∀ n ∈ t.closes, n ≤ 1

variable {t}

omit [DecidableEq κ] in
theorem coherent_empty : (empty : HandleTable κ).Coherent where
  isOpen _ _ h := nomatch h
  inj _ _ _ h := nomatch h
  listed _ h := nomatch h
  once := nofun

theorem insert_current_self (k : κ) : (t.insert k).current k = some t.next :=
  Function.update_self ..

theorem insert_current_of_ne {k k' : κ} (h : k' ≠ k) : (t.insert k).current k' = t.current k' :=
  Function.update_of_ne h ..

omit [DecidableEq κ] in
theorem Open.lt {h : ℕ} (hopen : t.Open h) : h < t.next :=
  (List.getElem?_eq_some_iff.mp hopen).1

theorem open_insert {k : κ} {h : ℕ} : (t.insert k).Open h ↔ t.Open h ∨ h = t.next := by
  rw [Open, insert, Open, next, List.getElem?_append]
  split
  · rename_i hlt
    simp [Nat.ne_of_lt hlt]
  · rename_i hle
    rw [List.getElem?_eq_none (Nat.not_lt.mp hle)]
    rcases Nat.eq_or_lt_of_le (Nat.not_lt.mp hle) with heq | hlt
    · simp [← heq]
    · have hpos : 1 ≤ h - t.closes.length := by omega
      simp [Nat.ne_of_gt hlt, List.getElem?_eq_none (l := [0]) hpos]

theorem insert_next (k : κ) : (t.insert k).next = t.next + 1 := List.length_append

theorem Coherent.insert (h : t.Coherent) {k : κ} (hk : t.current k = none) :
    (t.insert k).Coherent where
  isOpen k' n hn := by
    by_cases heq : k' = k
    · rw [heq, insert_current_self, Option.some.injEq] at hn
      exact open_insert.mpr (.inr hn.symm)
    · rw [insert_current_of_ne heq] at hn
      exact open_insert.mpr (.inl (h.isOpen k' n hn))
  inj k₁ k₂ n h₁ h₂ := by
    by_cases heq₁ : k₁ = k <;> by_cases heq₂ : k₂ = k
    · exact heq₁.trans heq₂.symm
    · rw [heq₁, insert_current_self, Option.some.injEq] at h₁
      rw [insert_current_of_ne heq₂] at h₂
      exact absurd h₁ (Nat.ne_of_gt (h.isOpen k₂ n h₂).lt)
    · rw [heq₂, insert_current_self, Option.some.injEq] at h₂
      rw [insert_current_of_ne heq₁] at h₁
      exact absurd h₂ (Nat.ne_of_gt (h.isOpen k₁ n h₁).lt)
    · rw [insert_current_of_ne heq₁] at h₁
      rw [insert_current_of_ne heq₂] at h₂
      exact h.inj k₁ k₂ n h₁ h₂
  listed n hn := by
    rcases open_insert.mp hn with hn | rfl
    · obtain ⟨k', hk'⟩ := h.listed n hn
      have hne : k' ≠ k := by
        rintro rfl
        exact nomatch hk.symm.trans hk'
      exact ⟨k', by rw [insert_current_of_ne hne, hk']⟩
    · exact ⟨k, insert_current_self k⟩
  once n hn := by
    rcases List.mem_append.mp hn with hn | hn
    · exact h.once n hn
    · rw [List.mem_singleton.mp hn]
      exact Nat.zero_le 1

/-! ## Moving -/

theorem move_current_target {k k' : κ} (h : k' ≠ k) : (t.move k k').current k' = t.current k :=
  (Function.update_of_ne h ..).trans (Function.update_self ..)

theorem move_current_source (k k' : κ) : (t.move k k').current k = none :=
  Function.update_self ..

theorem move_current_of_ne {k k' j : κ} (h : j ≠ k) (h' : j ≠ k') :
    (t.move k k').current j = t.current j :=
  (Function.update_of_ne h ..).trans (Function.update_of_ne h' ..)

theorem move_current_eq_some {k k' j : κ} {h : ℕ} (hj : (t.move k k').current j = some h) :
    (j = k' ∧ t.current k = some h) ∨ (j ≠ k ∧ j ≠ k' ∧ t.current j = some h) := by
  have hne : j ≠ k := by
    rintro rfl
    exact nomatch (move_current_source j k').symm.trans hj
  by_cases heq : j = k'
  · subst heq
    exact .inl ⟨rfl, (move_current_target hne).symm.trans hj⟩
  · exact .inr ⟨hne, heq, (move_current_of_ne hne heq).symm.trans hj⟩

theorem Coherent.move (h : t.Coherent) {k k' : κ} (hne : k' ≠ k) (hk' : t.current k' = none) :
    (t.move k k').Coherent where
  isOpen j n hj := by
    rcases move_current_eq_some hj with ⟨-, hn⟩ | ⟨-, -, hn⟩
    · exact h.isOpen k n hn
    · exact h.isOpen j n hn
  inj j₁ j₂ n h₁ h₂ := by
    rcases move_current_eq_some h₁ with ⟨heq₁, hn₁⟩ | ⟨hne₁, -, hn₁⟩ <;>
      rcases move_current_eq_some h₂ with ⟨heq₂, hn₂⟩ | ⟨hne₂, -, hn₂⟩
    · exact heq₁.trans heq₂.symm
    · exact absurd (h.inj j₂ k n hn₂ hn₁) hne₂
    · exact absurd (h.inj j₁ k n hn₁ hn₂) hne₁
    · exact h.inj j₁ j₂ n hn₁ hn₂
  listed n hn := by
    obtain ⟨j, hj⟩ := h.listed n hn
    by_cases hjk : j = k
    · exact ⟨k', (move_current_target hne).trans (hjk ▸ hj)⟩
    · refine ⟨j, (move_current_of_ne hjk ?_).trans hj⟩
      rintro rfl
      exact nomatch hk'.symm.trans hj
  once := h.once

/-! ## Closing -/

theorem close_of_none {k : κ} (hk : t.current k = none) : t.close k = t := by
  rw [close, hk]

theorem close_current_self (k : κ) : (t.close k).current k = none := by
  rw [close]
  cases hk : t.current k with
  | none => exact hk
  | some h => exact Function.update_self ..

theorem close_current_of_ne {k k' : κ} (h : k' ≠ k) : (t.close k).current k' = t.current k' := by
  rw [close]
  cases t.current k with
  | none => rfl
  | some _ => exact Function.update_of_ne h ..

theorem close_closes {k : κ} {h : ℕ} (hk : t.current k = some h) :
    (t.close k).closes = t.closes.modify h (· + 1) := by
  rw [close, hk]

theorem close_next (k : κ) : (t.close k).next = t.next := by
  rw [close]
  cases t.current k with
  | none => rfl
  | some h => exact List.length_modify ..

theorem open_close {k : κ} {h n : ℕ} (hk : t.current k = some h) :
    (t.close k).Open n ↔ t.Open n ∧ n ≠ h := by
  rw [Open, close_closes hk, List.getElem?_modify, Open]
  by_cases heq : h = n
  · simp [heq]
  · simp [heq, Ne.symm heq]

theorem Coherent.close (h : t.Coherent) (k : κ) : (t.close k).Coherent := by
  cases hk : t.current k with
  | none => exact (close_of_none hk).symm ▸ h
  | some c =>
    constructor
    case isOpen =>
      intro k' n hn
      have hne : k' ≠ k := by
        rintro rfl
        exact nomatch (close_current_self k').symm.trans hn
      rw [close_current_of_ne hne] at hn
      refine (open_close hk).mpr ⟨h.isOpen k' n hn, ?_⟩
      rintro rfl
      exact hne (h.inj k' k n hn hk)
    case inj =>
      intro k₁ k₂ n h₁ h₂
      have hne : ∀ k', (t.close k).current k' = some n → k' ≠ k := by
        rintro k' hk' rfl
        exact nomatch (close_current_self k').symm.trans hk'
      rw [close_current_of_ne (hne k₁ h₁)] at h₁
      rw [close_current_of_ne (hne k₂ h₂)] at h₂
      exact h.inj k₁ k₂ n h₁ h₂
    case listed =>
      intro n hn
      obtain ⟨hopen, hnc⟩ := (open_close hk).mp hn
      obtain ⟨k', hk'⟩ := h.listed n hopen
      have hne : k' ≠ k := by
        rintro rfl
        exact hnc (Option.some.inj (hk'.symm.trans hk))
      exact ⟨k', by rw [close_current_of_ne hne, hk']⟩
    case once =>
      intro n hn
      rw [close_closes hk] at hn
      obtain ⟨i, hi⟩ := List.mem_iff_getElem?.mp hn
      rw [List.getElem?_modify] at hi
      obtain ⟨m, hm, rfl⟩ := Option.map_eq_some_iff.mp hi
      split
      · rename_i heq
        -- The handle of an entry is open, so this is its first close.
        rw [← heq, h.isOpen k c hk, Option.some.injEq] at hm
        omega
      · exact h.once m (List.mem_of_getElem? hm)

end HandleTable
