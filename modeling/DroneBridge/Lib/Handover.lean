import DroneBridge.Lib.Machine
import Mathlib.Data.Nat.Notation
import Mathlib.Logic.Function.Basic

/-!
# Handing over a shared cell

Parties replace the cell that a shared pointer names. A replacement is four separate steps: read
the pointer, close the cell that was read, create a fresh cell, store it in the pointer. A party
may give up after the close, and the pointer then goes on naming a closed cell. Nothing keeps two
replacements from overlapping. Closing a cell twice is fatal, and nothing moves after it.

Two facts about whole runs follow from what one step does.

* At most one cell is open (`Slot.Unique`). A party that closed a cell without a fatal error closed
  the current one, so whoever has a fresh cell is alone, and the current cell is closed.
* No cell is closed twice, and none is about to be (`Slot.Safe`), exactly as long as every read of
  the pointer takes ownership: the cell it finds is open, and no party is about to close it
  (`Slot.Owns`).
-/

namespace Handover

inductive Phase
  | out
  /-- It has read the pointer and closes the cell next. -/
  | closing (n : ℕ)
  /-- It has closed a cell and has no fresh one yet. -/
  | building
  /-- It has created a cell and stores it next. -/
  | storing (n : ℕ)
  deriving DecidableEq, Repr

/-- Between the close and the store. -/
def Phase.busy : Phase → Bool
  | .building | .storing _ => true
  | _ => false

@[ext] structure Slot (κ : Type*) where
  /-- For each cell ever created, how often it was closed. -/
  closes : List ℕ
  current : ℕ
  phase : κ → Phase

inductive Act (κ : Type*)
  | read (a : κ)
  | close (a : κ)
  | create (a : κ)
  /-- No fresh cell can be made; the pointer stays as it is. -/
  | abandon (a : κ)
  | store (a : κ)

variable {κ : Type*}

namespace Slot

variable (s : Slot κ)

def Open (n : ℕ) : Prop := s.closes[n]? = some 0

/-- Some cell was closed twice. -/
def Doubled : Prop := ∃ c ∈ s.closes, 1 < c

instance : Decidable s.Doubled := inferInstanceAs (Decidable (∃ c ∈ s.closes, 1 < c))

def Unique : Prop := ∀ m n, s.Open m → s.Open n → m = n

/-- No cell was closed twice, every cell about to be closed is open, and one party closes it. -/
structure Safe : Prop where
  once : ¬ s.Doubled
  closing_open : ∀ a n, s.phase a = .closing n → s.Open n
  closing_alone : ∀ a b n, s.phase a = .closing n → s.phase b = .closing n → a = b

/-- A read takes ownership: the current cell is open, and nobody is about to close it. -/
def Owns : Act κ → Prop
  | .read _ => s.Open s.current ∧ ∀ b, s.phase b ≠ .closing s.current
  | _ => True

/-- Cell `n` is closed once more. -/
def close (n : ℕ) : Slot κ := { s with closes := s.closes.modify n (· + 1) }

def addCell : Slot κ := { s with closes := s.closes ++ [0] }

@[simp, grind =] theorem close_phase (n : ℕ) (a : κ) : (s.close n).phase a = s.phase a := rfl

@[simp, grind =] theorem close_current (n : ℕ) : (s.close n).current = s.current := rfl

@[simp, grind =] theorem length_close (n : ℕ) : (s.close n).closes.length = s.closes.length :=
  List.length_modify ..

@[simp, grind =] theorem addCell_phase (a : κ) : s.addCell.phase a = s.phase a := rfl

@[simp, grind =] theorem addCell_current : s.addCell.current = s.current := rfl

@[simp, grind =] theorem length_addCell : s.addCell.closes.length = s.closes.length + 1 :=
  List.length_append ..

variable {s}

@[simp, grind =] theorem open_close {m n : ℕ} : (s.close m).Open n ↔ s.Open n ∧ n ≠ m := by
  rw [Open, Open, close, List.getElem?_modify, ne_comm]
  rcases hn : s.closes[n]? with _ | c <;> by_cases hmn : m = n <;> simp [hmn]

@[simp, grind =] theorem open_addCell {n : ℕ} :
    s.addCell.Open n ↔ s.Open n ∨ n = s.closes.length := by
  rw [Open, Open, addCell, List.getElem?_append]
  split
  case isTrue hlt => simp [Nat.ne_of_lt hlt]
  case isFalse hge =>
    rw [List.getElem?_eq_none (by omega : s.closes.length ≤ n), List.getElem?_singleton]
    have hn : n - s.closes.length = 0 ↔ n = s.closes.length := by omega
    simp [hn]

theorem Open.lt_length {n : ℕ} (h : s.Open n) : n < s.closes.length :=
  (List.getElem?_eq_some_iff.mp h).1

variable (s) [DecidableEq κ]

def setPhase (a : κ) (p : Phase) : Slot κ := { s with phase := Function.update s.phase a p }

@[simp, grind =] theorem setPhase_closes (a : κ) (p : Phase) :
    (s.setPhase a p).closes = s.closes := rfl

@[simp, grind =] theorem setPhase_current (a : κ) (p : Phase) :
    (s.setPhase a p).current = s.current := rfl

@[simp, grind =] theorem open_setPhase (a : κ) (p : Phase) (n : ℕ) :
    (s.setPhase a p).Open n ↔ s.Open n := Iff.rfl

theorem setPhase_self {a : κ} {p : Phase} (h : s.phase a = p) : s.setPhase a p = s := by
  rw [setPhase, ← h, Function.update_eq_self]

@[grind =] theorem setPhase_phase (a b : κ) (p : Phase) :
    (s.setPhase a p).phase b = if b = a then p else s.phase b :=
  Function.update_apply s.phase a p b

/-- The pointer is made to name cell `n`. -/
def setCurrent (n : ℕ) : Slot κ := { s with current := n }

omit [DecidableEq κ] in
@[simp, grind =] theorem setCurrent_closes (n : ℕ) : (s.setCurrent n).closes = s.closes := rfl

omit [DecidableEq κ] in
@[simp, grind =] theorem setCurrent_current (n : ℕ) : (s.setCurrent n).current = n := rfl

omit [DecidableEq κ] in
@[simp, grind =] theorem setCurrent_phase (n : ℕ) (a : κ) :
    (s.setCurrent n).phase a = s.phase a := rfl

omit [DecidableEq κ] in
@[simp, grind =] theorem open_setCurrent (m n : ℕ) : (s.setCurrent m).Open n ↔ s.Open n := Iff.rfl

end Slot

open Slot

section Machine

variable [DecidableEq κ]

def machine (κ : Type*) [DecidableEq κ] : Machine (Slot κ) (Act κ) where
  step s act :=
    if s.Doubled then none
    else
      match act with
      | .read a => if s.phase a = .out then some (s.setPhase a (.closing s.current)) else none
      | .close a =>
        match s.phase a with
        | .closing n => some ((s.close n).setPhase a .building)
        | _ => none
      | .create a =>
        if s.phase a = .building then some (s.addCell.setPhase a (.storing s.closes.length))
        else none
      | .abandon a => if s.phase a = .building then some (s.setPhase a .out) else none
      | .store a =>
        match s.phase a with
        | .storing n => some ((s.setCurrent n).setPhase a .out)
        | _ => none

/-- The steps of the protocol as a relation. -/
inductive Move (s : Slot κ) : Act κ → Slot κ → Prop
  | read (a : κ) (h : s.phase a = .out) : Move s (.read a) (s.setPhase a (.closing s.current))
  | close (a : κ) (n : ℕ) (h : s.phase a = .closing n) :
    Move s (.close a) ((s.close n).setPhase a .building)
  | create (a : κ) (h : s.phase a = .building) :
    Move s (.create a) (s.addCell.setPhase a (.storing s.closes.length))
  | abandon (a : κ) (h : s.phase a = .building) : Move s (.abandon a) (s.setPhase a .out)
  | store (a : κ) (n : ℕ) (h : s.phase a = .storing n) :
    Move s (.store a) ((s.setCurrent n).setPhase a .out)

variable {s s' : Slot κ} {act : Act κ}

theorem step_eq_some : (machine κ).step s act = some s' ↔ ¬ s.Doubled ∧ Move s act s' := by
  rw [machine]
  dsimp only
  by_cases hd : s.Doubled
  · simp [hd]
  · rw [if_neg hd]
    constructor
    · intro h
      refine ⟨hd, ?_⟩
      rcases act with a | a | a | a | a <;> dsimp only at h
      case read | create | abandon =>
        obtain ⟨hp, h⟩ := Option.ite_none_right_eq_some.mp h
        rw [← Option.some.inj h]
        constructor
        exact hp
      case close | store =>
        split at h
        case h_1 n hp =>
          rw [← Option.some.inj h]
          constructor
          exact hp
        case h_2 => exact absurd h (by simp)
    · rintro ⟨-, h⟩
      rcases h with ⟨a, hp⟩ | ⟨a, n, hp⟩ | ⟨a, hp⟩ | ⟨a, hp⟩ | ⟨a, n, hp⟩ <;> simp [hp]

theorem Move.run (hd : ¬ s.Doubled) (h : Move s act s') : (machine κ).run s [act] = some s' :=
  Machine.run_cons_eq_some.mpr ⟨s', step_eq_some.mpr ⟨hd, h⟩, rfl⟩

/-- A party that reads the pointer and closes what it names in one go. -/
theorem run_read_close (hd : ¬ s.Doubled) {a : κ} (ha : s.phase a = .out) :
    (machine κ).run s [.read a, .close a] =
      some ((s.close s.current).setPhase a .building) := by
  have hd' : ¬ (s.setPhase a (.closing s.current)).Doubled := hd
  have hclose := Move.close (s := s.setPhase a (.closing s.current)) a s.current
    (by rw [setPhase_phase, if_pos rfl])
  refine Machine.run_cons_eq_some.mpr ⟨_, step_eq_some.mpr ⟨hd, Move.read a ha⟩, ?_⟩
  refine (hclose.run hd').trans (congrArg some ?_)
  simp only [setPhase, close, Function.update_idem]

end Machine

/-! ## At most one open cell -/

/-- What holds while nothing was closed twice. -/
structure Inv (s : Slot κ) : Prop where
  current_lt : s.current < s.closes.length
  /-- While a party has closed a cell and stored no other, the current cell is closed. -/
  shut : ∀ a, (s.phase a).busy = true → ¬ s.Open s.current
  /-- Only one party is between its close and its store. -/
  alone : ∀ a b, (s.phase a).busy = true → (s.phase b).busy = true → a = b
  /-- An open cell is the current one or about to be. -/
  owned : ∀ n, s.Open n → n = s.current ∨ ∃ a, s.phase a = .storing n
  storing_open : ∀ a n, s.phase a = .storing n → s.Open n
  closing_lt : ∀ a n, s.phase a = .closing n → n < s.closes.length
  /-- A cell about to be closed has been the current one. -/
  closing_ne : ∀ a b n, s.phase a = .closing n → s.phase b ≠ .storing n

theorem Inv.unique {s : Slot κ} (h : Inv s) : s.Unique := by
  intro m n hm hn
  rcases h.owned m hm with rfl | ⟨a, ha⟩
  · rcases h.owned n hn with rfl | ⟨b, hb⟩
    · rfl
    · exact absurd hm (h.shut b (by rw [hb]; rfl))
  · rcases h.owned n hn with rfl | ⟨b, hb⟩
    · exact absurd hn (h.shut a (by rw [ha]; rfl))
    · have hab : a = b := h.alone a b (by rw [ha]; rfl) (by rw [hb]; rfl)
      rw [hab, hb] at ha
      exact (Phase.storing.inj ha).symm

theorem inv_init {s : Slot κ} (hc : s.closes = [0]) (h0 : s.current = 0)
    (hp : ∀ a, s.phase a = .out) : Inv s := by
  refine ⟨by simp [hc, h0], ?_, ?_, ?_, ?_, ?_, ?_⟩ <;> try grind [Phase.busy]
  intro n hn
  have hlt := hn.lt_length
  rw [hc, List.length_singleton] at hlt
  exact .inl (by omega)

variable {s s' : Slot κ}

theorem doubled_iff : s.Doubled ↔ ∃ (n : ℕ) (c : ℕ), s.closes[n]? = some c ∧ 1 < c := by
  constructor
  · rintro ⟨c, hc, hlt⟩
    obtain ⟨n, hn⟩ := List.mem_iff_getElem?.mp hc
    exact ⟨n, c, hn, hlt⟩
  · rintro ⟨n, c, hn, hlt⟩
    exact ⟨c, List.mem_of_getElem? hn, hlt⟩

theorem doubled_addCell : s.addCell.Doubled ↔ s.Doubled := by
  simp [Slot.Doubled, Slot.addCell]

theorem doubled_close {n : ℕ} (hs : ¬ s.Doubled) (hlt : n < s.closes.length) :
    (s.close n).Doubled ↔ ¬ s.Open n := by
  have hget : s.closes[n]? = some s.closes[n] := List.getElem?_eq_getElem hlt
  constructor
  · intro hd hn
    obtain ⟨m, c, hm, hc⟩ := doubled_iff.mp hd
    rw [Slot.close, List.getElem?_modify] at hm
    obtain ⟨d, hd, rfl⟩ := Option.map_eq_some_iff.mp hm
    split at hc
    case isTrue hnm =>
      rw [← hnm, hn, Option.some.injEq] at hd
      omega
    case isFalse => exact hs (doubled_iff.mpr ⟨m, d, hd, hc⟩)
  · intro hn
    refine doubled_iff.mpr ⟨n, s.closes[n] + 1, ?_, ?_⟩
    · rw [Slot.close, List.getElem?_modify, hget]
      simp
    · have hne : s.closes[n] ≠ 0 := by
        intro h0
        exact hn (by rw [Slot.Open, hget, h0])
      omega

theorem Inv.closing_current (h : Inv s) {a : κ} {n : ℕ} (ha : s.phase a = .closing n)
    (hn : s.Open n) : n = s.current := by
  rcases h.owned n hn with hcur | ⟨b, hb⟩
  · exact hcur
  · exact absurd hb (h.closing_ne a b n ha)

variable [DecidableEq κ] {act : Act κ}

/-- Who is in a phase after one party changed its own: that party, or one that was in it before. -/
theorem phase_setPhase {a b : κ} {p q : Phase} (h : (s.setPhase a p).phase b = q) :
    b = a ∧ q = p ∨ b ≠ a ∧ s.phase b = q := by
  rw [setPhase_phase] at h
  split at h
  case isTrue hb => exact .inl ⟨hb, h.symm⟩
  case isFalse hb => exact .inr ⟨hb, h⟩

theorem busy_setPhase {a b : κ} {p : Phase} (h : ((s.setPhase a p).phase b).busy = true) :
    b = a ∧ p.busy = true ∨ b ≠ a ∧ (s.phase b).busy = true := by
  rw [setPhase_phase] at h
  split at h
  case isTrue hb => exact .inl ⟨hb, h⟩
  case isFalse hb => exact .inr ⟨hb, h⟩

/-- A party that is not about to store goes to a phase outside the replacement proper. If it is
about to close now, then the current cell. -/
theorem Inv.setPhase (h : Inv s) {a : κ} {p : Phase} (ha : ∀ n, s.phase a ≠ .storing n)
    (hp : p.busy = false) (hclosing : ∀ n, p = .closing n → n = s.current) :
    Inv (s.setPhase a p) := by
  have hbusy {b : κ} (hb : ((s.setPhase a p).phase b).busy = true) : (s.phase b).busy = true := by
    rcases busy_setPhase hb with ⟨-, hp'⟩ | ⟨-, hb⟩
    · exact absurd hp' (by simp [hp])
    · exact hb
  have hstoring {b : κ} {n : ℕ} (hb : (s.setPhase a p).phase b = .storing n) :
      s.phase b = .storing n := by
    rcases phase_setPhase hb with ⟨-, rfl⟩ | ⟨-, hb⟩
    · exact absurd hp (by simp [Phase.busy])
    · exact hb
  refine ⟨h.current_lt, fun b hb ↦ h.shut b (hbusy hb),
    fun b c hb hc ↦ h.alone b c (hbusy hb) (hbusy hc), fun n hn ↦ ?_,
    fun b n hb ↦ h.storing_open b n (hstoring hb), fun b n hb ↦ ?_, fun b c n hb hc ↦ ?_⟩
  · rcases h.owned n hn with hcur | ⟨b, hb⟩
    · exact .inl hcur
    · refine .inr ⟨b, ?_⟩
      rw [setPhase_phase, if_neg, hb]
      rintro rfl
      exact ha n hb
  · rcases phase_setPhase hb with ⟨-, hp'⟩ | ⟨-, hb⟩
    · rw [hclosing n hp'.symm]
      exact h.current_lt
    · exact h.closing_lt b n hb
  · rcases phase_setPhase hb with ⟨-, hp'⟩ | ⟨-, hb⟩
    · -- while a cell is about to be stored the current one is closed
      obtain rfl := hclosing n hp'.symm
      have hopen := h.storing_open c _ (hstoring hc)
      exact h.shut c (by rw [hstoring hc]; rfl) hopen
    · exact h.closing_ne b c n hb (hstoring hc)

/-- The current cell, open so far, is closed: then nobody was between its close and its store, and
no cell is open. -/
theorem Inv.close (h : Inv s) {a : κ} {n : ℕ} (ha : s.phase a = .closing n) (hn : s.Open n) :
    Inv ((s.close n).setPhase a .building) := by
  have hcur := h.closing_current ha hn
  have hfree (b : κ) : (s.phase b).busy = false := by
    by_contra hb
    exact h.shut b (by simpa using hb) (hcur ▸ hn)
  have hnone (m : ℕ) : ¬ (s.close n).Open m := by
    intro hm
    obtain ⟨hm, hne⟩ := open_close.mp hm
    rcases h.owned m hm with hm | ⟨b, hb⟩
    · exact hne (hm.trans hcur.symm)
    · exact absurd (hfree b) (by simp [hb, Phase.busy])
  have hstoring {b : κ} {m : ℕ} : ((s.close n).setPhase a .building).phase b ≠ .storing m := by
    intro hb
    rcases phase_setPhase hb with ⟨-, hp⟩ | ⟨-, hb⟩
    · exact absurd hp (by simp)
    · exact absurd (hfree b) (by simp [show s.phase b = _ from hb, Phase.busy])
  have hbusy {b : κ} (hb : (((s.close n).setPhase a .building).phase b).busy = true) : b = a := by
    rcases busy_setPhase hb with ⟨hb, -⟩ | ⟨-, hb⟩
    · exact hb
    · exact absurd (hfree b) (by simp [show (s.phase b).busy = true from hb])
  refine ⟨by simpa using h.current_lt, fun _ _ hopen ↦ hnone _ hopen,
    fun b c hb hc ↦ (hbusy hb).trans (hbusy hc).symm, fun m hm ↦ absurd hm (hnone m),
    fun b m hb ↦ absurd hb hstoring, fun b m hb ↦ ?_, fun _ _ _ _ ↦ hstoring⟩
  rcases phase_setPhase hb with ⟨-, hp⟩ | ⟨-, hb⟩
  · exact absurd hp (by simp)
  · rw [setPhase_closes, length_close]
    exact h.closing_lt b m hb

/-- A fresh cell: the one party between its close and its store owns it, and it is the only open
one. -/
theorem Inv.create (h : Inv s) {a : κ} (ha : s.phase a = .building) :
    Inv (s.addCell.setPhase a (.storing s.closes.length)) := by
  have hbusy : (s.phase a).busy = true := by rw [ha]; rfl
  have hnone (m : ℕ) : ¬ s.Open m := by
    intro hm
    rcases h.owned m hm with rfl | ⟨b, hb⟩
    · exact h.shut a hbusy hm
    · rw [h.alone b a (by rw [hb]; rfl) hbusy, ha] at hb
      exact absurd hb (by simp)
  have halone {b : κ}
      (hb : ((s.addCell.setPhase a (.storing s.closes.length)).phase b).busy = true) : b = a := by
    rcases busy_setPhase hb with ⟨hb, -⟩ | ⟨-, hb⟩
    · exact hb
    · exact h.alone b a hb hbusy
  have hstoring {b : κ} {n : ℕ}
      (hb : (s.addCell.setPhase a (.storing s.closes.length)).phase b = .storing n) :
      n = s.closes.length := by
    have hba := halone (by rw [hb]; rfl)
    rw [hba, setPhase_phase, if_pos rfl] at hb
    exact (Phase.storing.inj hb).symm
  have hclosing {b : κ} {n : ℕ}
      (hb : (s.addCell.setPhase a (.storing s.closes.length)).phase b = .closing n) :
      n < s.closes.length := by
    rcases phase_setPhase hb with ⟨-, hp⟩ | ⟨-, hb⟩
    · exact absurd hp (by simp)
    · exact h.closing_lt b n hb
  refine ⟨?_, fun b _ hopen ↦ ?_, fun b c hb hc ↦ (halone hb).trans (halone hc).symm,
    fun n hn ↦ ?_, fun b n hb ↦ ?_, fun b n hb ↦ ?_, fun b c n hb hc ↦ ?_⟩
  · rw [setPhase_closes, length_addCell]
    exact Nat.lt_succ_of_lt h.current_lt
  · rcases open_addCell.mp hopen with hopen | hlen
    · exact hnone _ hopen
    · exact absurd hlen (Nat.ne_of_lt h.current_lt)
  · rcases open_addCell.mp hn with hold | rfl
    · exact absurd hold (hnone n)
    · exact .inr ⟨a, by rw [setPhase_phase, if_pos rfl]⟩
  · exact open_addCell.mpr (.inr (hstoring hb))
  · rw [setPhase_closes, length_addCell]
    exact Nat.lt_succ_of_lt (hclosing hb)
  · exact absurd (hstoring hc) (Nat.ne_of_lt (hclosing hb))

/-- The fresh cell becomes the current one, and nobody is between its close and its store. -/
theorem Inv.store (h : Inv s) {a : κ} {n : ℕ} (ha : s.phase a = .storing n) :
    Inv ((s.setCurrent n).setPhase a .out) := by
  have hbusy : (s.phase a).busy = true := by rw [ha]; rfl
  have hfree {b : κ} : (((s.setCurrent n).setPhase a .out).phase b).busy ≠ true := by
    intro hb
    rcases busy_setPhase hb with ⟨-, hp⟩ | ⟨hne, hb⟩
    · exact absurd hp (by simp [Phase.busy])
    · exact hne (h.alone b a hb hbusy)
  have hstoring {b : κ} {m : ℕ} : ((s.setCurrent n).setPhase a .out).phase b ≠ .storing m := by
    intro hb
    exact hfree (b := b) (by rw [hb]; rfl)
  refine ⟨(h.storing_open a n ha).lt_length, fun b hb ↦ absurd hb hfree,
    fun b _ hb ↦ absurd hb hfree, fun m hm ↦ .inl ?_, fun b m hb ↦ absurd hb hstoring,
    fun b m hb ↦ ?_, fun _ _ _ _ ↦ hstoring⟩
  · rcases h.owned m hm with rfl | ⟨b, hb⟩
    · exact absurd hm (h.shut a hbusy)
    · rw [h.alone b a (by rw [hb]; rfl) hbusy, ha] at hb
      exact (Phase.storing.inj hb).symm
  · rcases phase_setPhase hb with ⟨-, hp⟩ | ⟨-, hb⟩
    · exact absurd hp (by simp)
    · exact h.closing_lt b m hb

theorem Inv.move (h : Inv s) (hs : ¬ s.Doubled) (hmove : Move s act s') (hd : ¬ s'.Doubled) :
    Inv s' := by
  rcases hmove with ⟨a, ha⟩ | ⟨a, n, ha⟩ | ⟨a, ha⟩ | ⟨a, ha⟩ | ⟨a, n, ha⟩
  case read => exact h.setPhase (by simp [ha]) rfl fun n hn ↦ (Phase.closing.inj hn).symm
  case close =>
    have hn : s.Open n := not_not.mp fun hn ↦ hd ((doubled_close hs (h.closing_lt a n ha)).mpr hn)
    exact h.close ha hn
  case create => exact h.create ha
  case abandon => exact h.setPhase (by simp [ha]) rfl fun n hn ↦ absurd hn (by simp)
  case store => exact h.store ha

/-- Also after a fatal close at most one cell is open: it opened none. -/
theorem Inv.unique_move (h : Inv s) (hs : ¬ s.Doubled) (hmove : Move s act s') : s'.Unique := by
  by_cases hd : s'.Doubled
  · rcases hmove with ⟨a, ha⟩ | ⟨a, n, ha⟩ | ⟨a, ha⟩ | ⟨a, ha⟩ | ⟨a, n, ha⟩
    case close =>
      intro m k hm hk
      exact h.unique m k (open_close.mp hm).1 (open_close.mp hk).1
    case create => exact absurd (doubled_addCell.mp hd) hs
    all_goals exact absurd hd hs
  · exact (h.move hs hmove hd).unique

/-! ## Ownership -/

omit [DecidableEq κ] in
/-- A step that leaves alone the parties about to close, and what they are about to close. -/
theorem safe_congr (hd : s'.Doubled ↔ s.Doubled)
    (hp : ∀ b n, s'.phase b = .closing n ↔ s.phase b = .closing n)
    (ho : ∀ b n, s.phase b = .closing n → (s'.Open n ↔ s.Open n)) : s'.Safe ↔ s.Safe := by
  constructor
  · rintro ⟨honce, hopen, halone⟩
    refine ⟨hd.not.mp honce, fun b n hb ↦ (ho b n hb).mp (hopen b n ((hp b n).mpr hb)), ?_⟩
    intro b c n hb hc
    exact halone b c n ((hp b n).mpr hb) ((hp c n).mpr hc)
  · rintro ⟨honce, hopen, halone⟩
    refine ⟨hd.not.mpr honce, fun b n hb ↦ ?_, fun b c n hb hc ↦ ?_⟩
    · exact (ho b n ((hp b n).mp hb)).mpr (hopen b n ((hp b n).mp hb))
    · exact halone b c n ((hp b n).mp hb) ((hp c n).mp hc)

/-- A party that neither was about to close a cell nor is now. -/
theorem closing_setPhase {a : κ} {p : Phase} (ha : ∀ n, s.phase a ≠ .closing n)
    (hp : ∀ n, p ≠ .closing n) (b : κ) (n : ℕ) :
    (s.setPhase a p).phase b = .closing n ↔ s.phase b = .closing n := by
  rw [setPhase_phase]
  split
  case isTrue hb => simp [hb, ha n, hp n]
  case isFalse => rfl

/-- After a read the party is about to close the current cell. -/
theorem safe_read {a : κ} (ha : s.phase a = .out) :
    (s.setPhase a (.closing s.current)).Safe ↔ s.Safe ∧ s.Owns (.read a) := by
  have hcur : (s.setPhase a (.closing s.current)).phase a = .closing s.current := by
    rw [setPhase_phase, if_pos rfl]
  have hold {b : κ} {n : ℕ} (hb : s.phase b = .closing n) :
      (s.setPhase a (.closing s.current)).phase b = .closing n := by
    rw [setPhase_phase, if_neg, hb]
    rintro rfl
    exact absurd (ha.symm.trans hb) (by simp)
  constructor
  · rintro ⟨hd, hopen, halone⟩
    refine ⟨⟨hd, fun b n hb ↦ hopen b n (hold hb),
      fun b c n hb hc ↦ halone b c n (hold hb) (hold hc)⟩, hopen a _ hcur, fun b hb ↦ ?_⟩
    have hab : a = b := halone a b _ hcur (hold hb)
    rw [← hab, ha] at hb
    exact absurd hb (by simp)
  · rintro ⟨⟨hd, hopen, halone⟩, hcur, hfree⟩
    refine ⟨hd, fun b n hb ↦ ?_, fun b c n hb hc ↦ ?_⟩
    · rcases phase_setPhase hb with ⟨-, hn⟩ | ⟨-, hb⟩
      · rwa [Phase.closing.inj hn]
      · exact hopen b n hb
    · rcases phase_setPhase hb with ⟨hb, hn⟩ | ⟨-, hb⟩ <;>
        rcases phase_setPhase hc with ⟨hc, hn'⟩ | ⟨-, hc⟩
      · rw [hb, hc]
      · exact absurd (Phase.closing.inj hn ▸ hc) (hfree c)
      · exact absurd (Phase.closing.inj hn' ▸ hb) (hfree b)
      · exact halone b c n hb hc

/-- After a close the other parties about to close must not be about to close the same cell. -/
theorem safe_close (hs : ¬ s.Doubled) {a : κ} {n : ℕ} (ha : s.phase a = .closing n)
    (hlt : n < s.closes.length) : ((s.close n).setPhase a .building).Safe ↔ s.Safe := by
  have hclosing {b : κ} {m : ℕ} : ((s.close n).setPhase a .building).phase b = .closing m ↔
      b ≠ a ∧ s.phase b = .closing m := by
    rw [setPhase_phase]
    split
    case isTrue hb => simp [hb]
    case isFalse hb => simp [hb]
  constructor
  · rintro ⟨hd, hopen, halone⟩
    have hn : s.Open n := not_not.mp fun hn ↦ hd ((doubled_close hs hlt).mpr hn)
    have hother {b : κ} {m : ℕ} (hba : b ≠ a) (hb : s.phase b = .closing m) :
        s.Open m ∧ m ≠ n := open_close.mp (hopen b m (hclosing.mpr ⟨hba, hb⟩))
    have hown {m : ℕ} (hm : s.phase a = .closing m) : m = n := Phase.closing.inj (hm.symm.trans ha)
    refine ⟨hs, fun b m hb ↦ ?_, fun b c m hb hc ↦ ?_⟩
    · by_cases hba : b = a
      · have hm : m = n := hown (by rw [← hba, hb])
        rwa [hm]
      · exact (hother hba hb).1
    · by_cases hba : b = a <;> by_cases hca : c = a
      · rw [hba, hca]
      · exact absurd (hown (by rw [← hba, hb])) (hother hca hc).2
      · exact absurd (hown (by rw [← hca, hc])) (hother hba hb).2
      · exact halone b c m (hclosing.mpr ⟨hba, hb⟩) (hclosing.mpr ⟨hca, hc⟩)
  · rintro ⟨-, hopen, halone⟩
    refine ⟨fun hd ↦ (doubled_close hs hlt).mp hd (hopen a n ha), fun b m hb ↦ ?_,
      fun b c m hb hc ↦ halone b c m (hclosing.mp hb).2 (hclosing.mp hc).2⟩
    obtain ⟨hba, hbm⟩ := hclosing.mp hb
    refine open_close.mpr ⟨hopen b m hbm, ?_⟩
    rintro rfl
    exact hba (halone b a m hbm ha)

/-- A step leads to a safe state just when it starts from one and takes ownership. -/
theorem Inv.safe_move (h : Inv s) (hs : ¬ s.Doubled) (hmove : Move s act s') :
    s'.Safe ↔ s.Safe ∧ s.Owns act := by
  rcases hmove with ⟨a, ha⟩ | ⟨a, n, ha⟩ | ⟨a, ha⟩ | ⟨a, ha⟩ | ⟨a, n, ha⟩
  case read => exact safe_read ha
  case close =>
    have howns : s.Owns (.close a) := trivial
    rw [and_iff_left howns]
    exact safe_close hs ha (h.closing_lt a n ha)
  case create =>
    have howns : s.Owns (.create a) := trivial
    rw [and_iff_left howns]
    refine safe_congr doubled_addCell (closing_setPhase (s := s.addCell) (by simp [ha]) (by simp))
      fun b n hb ↦ ?_
    rw [open_setPhase, open_addCell, or_iff_left (Nat.ne_of_lt (h.closing_lt b n hb))]
  case abandon =>
    have howns : s.Owns (.abandon a) := trivial
    rw [and_iff_left howns]
    exact safe_congr Iff.rfl (closing_setPhase (by simp [ha]) (by simp)) fun _ _ _ ↦ Iff.rfl
  case store =>
    have howns : s.Owns (.store a) := trivial
    rw [and_iff_left howns]
    exact safe_congr Iff.rfl (closing_setPhase (by simp [ha]) (by simp)) fun _ _ _ ↦ Iff.rfl

/-! ## Runs -/

/-- The invariant of runs, fatal closes included. -/
structure Coherent (s : Slot κ) : Prop where
  unique : s.Unique
  inv : ¬ s.Doubled → Inv s

theorem Coherent.step (h : Coherent s) (hstep : (machine κ).step s act = some s') :
    Coherent s' := by
  obtain ⟨hs, hmove⟩ := step_eq_some.mp hstep
  exact ⟨(h.inv hs).unique_move hs hmove, (h.inv hs).move hs hmove⟩

theorem Coherent.run (h : Coherent s) {acts : List (Act κ)}
    (hrun : (machine κ).run s acts = some s') : Coherent s' :=
  Machine.invariant (fun _ _ _ h hstep ↦ h.step hstep) h hrun

/-- A run leads to a safe state just when it starts from one and every read takes ownership. -/
theorem Coherent.safe_run (h : Coherent s) {acts : List (Act κ)}
    (hrun : (machine κ).run s acts = some s') :
    s'.Safe ↔ s.Safe ∧ (machine κ).Along Owns s acts := by
  induction acts generalizing s with
  | nil =>
    rw [Machine.run_nil, Option.some.injEq] at hrun
    simp [hrun]
  | cons act acts ih =>
    obtain ⟨m, hm, hes⟩ := Machine.run_cons_eq_some.mp hrun
    obtain ⟨hs, hmove⟩ := step_eq_some.mp hm
    rw [Machine.along_cons hm, ih (h.step hm) hes, (h.inv hs).safe_move hs hmove, and_assoc]

end Handover
