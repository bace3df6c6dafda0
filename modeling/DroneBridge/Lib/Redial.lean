import DroneBridge.Lib.Machine
import Mathlib.Data.Nat.Notation

/-!
# A shared connection that is closed, dialled and stored in steps

Several parties use the connection a shared pointer names, and each may replace it. To replace it, a
party sees to it that the current connection is closed or that there is none, dials, and stores the
new one later. A mutex exists, but only some of the parties take it; a party that holds it reads the
pointer again after it has stored a connection. The pointer is cleared under the mutex or without
it.

`Act` says what one party can do to what is shared, with two marks: whether a replacement begins,
and whether the pointer is cleared without the mutex. Two facts about runs rest on it.

* Every open connection is the current one (`Tidy`), as long as no replacement begins while another
  party is dialling (`Inv.move`). Two parties that dial at a time leave an open connection behind
  (`not_tidy_of_two_stores`).
* A party that reads the pointer again finds a connection (`Ready`), exactly as long as nobody
  clears the pointer without the mutex before that read (`Excl.ready_move_iff`). Clearing it under
  the mutex does no harm, since whoever is to read again holds the mutex (`Excl`).
-/

namespace Redial

/-! ## What is shared -/

structure Shared where
  locked : Bool
  /-- The connection the pointer names, by its number. -/
  current : Option ℕ
  /-- For each connection ever stored, whether it is closed. -/
  closed : List Bool
  deriving DecidableEq, Repr

namespace Shared

variable (sh : Shared)

def Open (n : ℕ) : Prop := sh.closed[n]? = some false

instance (n : ℕ) : Decidable (sh.Open n) := inferInstanceAs (Decidable (_ = _))

/-- The current connection is closed, and stays the current one. -/
def close : Shared :=
  match sh.current with
  | none => sh
  | some n => { sh with closed := sh.closed.set n true }

def reset : Shared := { sh.close with current := none }

/-- A new connection takes the place of the current one. -/
def store : Shared :=
  { sh with current := some sh.closed.length, closed := sh.closed ++ [false] }

@[simp] theorem close_current : sh.close.current = sh.current := by
  rw [close]
  split <;> rfl

@[simp] theorem close_locked : sh.close.locked = sh.locked := by
  rw [close]
  split <;> rfl

variable {sh}

theorem open_close {n : ℕ} : sh.close.Open n ↔ sh.Open n ∧ sh.current ≠ some n := by
  rw [close]
  cases hcur : sh.current with
  | none => simp
  | some m =>
    dsimp only [Open]
    rw [List.getElem?_set]
    by_cases hmn : m = n
    · subst hmn
      by_cases hlt : m < sh.closed.length <;> simp [hlt]
    · simp [hmn]

theorem open_store {n : ℕ} : sh.store.Open n ↔ sh.Open n ∨ n = sh.closed.length := by
  dsimp only [Open, store]
  rw [List.getElem?_append]
  split
  case isTrue hlt => simp [Nat.ne_of_lt hlt]
  case isFalse hge =>
    rw [List.getElem?_eq_none (by omega : sh.closed.length ≤ n), List.getElem?_singleton]
    have hn : n - sh.closed.length = 0 ↔ n = sh.closed.length := by omega
    simp [hn]

variable (sh) in
/-- Every open connection is the current one. -/
def Tidy : Prop := ∀ n, sh.Open n → sh.current = some n

/-- Closing the current connection of a tidy state leaves none open. -/
theorem Tidy.not_open_close (h : sh.Tidy) (n : ℕ) : ¬ sh.close.Open n := by
  intro hn
  obtain ⟨hopen, hne⟩ := open_close.mp hn
  exact hne (h n hopen)

end Shared

/-! ## What a party does -/

inductive Stage
  | out
  /-- It has begun a replacement and has not stored a connection. -/
  | dialling
  /-- It holds the mutex, has stored a connection and reads the pointer again next. -/
  | rereading
  deriving DecidableEq, Repr

structure Phase where
  holds : Bool
  stage : Stage
  deriving DecidableEq, Repr

def Phase.out : Phase := ⟨false, .out⟩

/-- What a party can do: whether it begins a replacement, whether it clears the pointer without the
mutex, the shared part after it, and its next phase. -/
inductive Act (sh : Shared) (p : Phase) : Bool → Bool → Shared → Phase → Prop
  | skip : Act sh p false false sh p
  | lock (hp : p = .out) (hfree : sh.locked = false) :
    Act sh p false false { sh with locked := true } ⟨true, .out⟩
  | unlock (hp : p.holds = true) : Act sh p false false { sh with locked := false } .out
  | close (hp : p.stage = .out) : Act sh p false false sh.close p
  /-- It closes the current connection and begins to dial. -/
  | redial (hp : p.stage = .out) : Act sh p true false sh.close ⟨p.holds, .dialling⟩
  /-- It finds no connection and begins to dial. -/
  | dial (hp : p.stage = .out) (hnone : sh.current = none) :
    Act sh p true false sh ⟨p.holds, .dialling⟩
  | giveUp (hp : p = ⟨false, .dialling⟩) : Act sh p false false sh .out
  | store (hp : p.stage = .dialling) :
    Act sh p false false sh.store ⟨p.holds, if p.holds then .rereading else .out⟩
  | reread (hp : p.stage = .rereading) : Act sh p false false sh ⟨p.holds, .out⟩
  | reset (hp : p = .out) : Act sh p false true sh.reset p
  | resetDial (hp : p = .out) : Act sh p true true sh.reset ⟨false, .dialling⟩
  | resetLocked (hp : p = .out) (hfree : sh.locked = false) : Act sh p false false sh.reset p

/-! ## Parties -/

structure Cell (κ : Type*) where
  shared : Shared
  phase : κ → Phase

variable {κ : Type*}

def Cell.Dialling (c : Cell κ) (a : κ) : Prop := (c.phase a).stage = .dialling

def Cell.Rereading (c : Cell κ) (a : κ) : Prop := (c.phase a).stage = .rereading

/-- One party acts, and the others stay in their phases. -/
structure Move (c : Cell κ) (a : κ) (begins clears : Bool) (c' : Cell κ) : Prop where
  act : Act c.shared (c.phase a) begins clears c'.shared (c'.phase a)
  frame : ∀ b, b ≠ a → c'.phase b = c.phase b

variable {c c' : Cell κ} {a b : κ} {begins clears : Bool}

/-! ## Replacements that do not overlap -/

/-- While a party dials, it is the only one, and no connection is open. -/
structure Inv (c : Cell κ) : Prop where
  tidy : c.shared.Tidy
  shut : ∀ a, c.Dialling a → ∀ n, ¬ c.shared.Open n
  alone : ∀ a b, c.Dialling a → c.Dialling b → a = b

/-- A move after which no other party dials and no other connection is open. -/
theorem Inv.mono (h : Inv c) (hdial : ∀ b, c'.Dialling b → c.Dialling b)
    (hopen : ∀ n, c'.shared.Open n → c.shared.Open n ∧ c'.shared.current = c.shared.current) :
    Inv c' where
  tidy n hn := by
    obtain ⟨hn', hcur⟩ := hopen n hn
    exact hcur.trans (h.tidy n hn')
  shut b hb n hn := h.shut b (hdial b hb) n (hopen n hn).1
  alone a b ha hb := h.alone a b (hdial a ha) (hdial b hb)

/-- A replacement begins: the party is alone, and no connection is open. -/
theorem Inv.begin (hframe : ∀ b, b ≠ a → c'.phase b = c.phase b) (halone : ∀ b, ¬ c.Dialling b)
    (hshut : ∀ n, ¬ c'.shared.Open n) : Inv c' := by
  have honly (b : κ) (hb : c'.Dialling b) : b = a := by
    by_contra hne
    rw [Cell.Dialling, hframe b hne] at hb
    exact halone b hb
  exact ⟨fun n hn ↦ absurd hn (hshut n), fun _ _ ↦ hshut,
    fun b b' hb hb' ↦ (honly b hb).trans (honly b' hb').symm⟩

/-- A party that was alone stores its connection, and nobody dials any more. -/
theorem Inv.store (h : Inv c) (ha : c.Dialling a) (ha' : ¬ c'.Dialling a)
    (hframe : ∀ b, b ≠ a → c'.phase b = c.phase b) (hshared : c'.shared = c.shared.store) :
    Inv c' := by
  have hnobody (b : κ) : ¬ c'.Dialling b := by
    intro hb
    by_cases hne : b = a
    · exact ha' (hne ▸ hb)
    · rw [Cell.Dialling, hframe b hne] at hb
      exact hne (h.alone b a hb ha)
  refine ⟨fun n hn ↦ ?_, fun b hb ↦ absurd hb (hnobody b), fun b _ hb ↦ absurd hb (hnobody b)⟩
  rw [hshared, Shared.open_store] at hn
  obtain rfl := hn.resolve_left (h.shut a ha n)
  rw [hshared]
  rfl

/-- The party that moves does not dial after the move: who dials, dialled before. -/
theorem Move.dialling_of_not (h : Move c a begins clears c') (ha : ¬ c'.Dialling a)
    (hb : c'.Dialling b) : c.Dialling b := by
  have hne : b ≠ a := fun hba ↦ ha (hba ▸ hb)
  rwa [Cell.Dialling, ← h.frame b hne]

theorem Move.dialling_of_eq (h : Move c a begins clears c') (ha : c'.phase a = c.phase a)
    (hb : c'.Dialling b) : c.Dialling b := by
  by_cases hne : b = a
  · subst hne
    rwa [Cell.Dialling, ← ha]
  · rwa [Cell.Dialling, ← h.frame b hne]

/-- Who begins a replacement was not dialling before, and is after. -/
theorem Move.begins_dialling (h : Move c a true clears c') : ¬ c.Dialling a ∧ c'.Dialling a := by
  have hact := h.act
  generalize hsh : c'.shared = sh' at hact
  generalize hp' : c'.phase a = p' at hact
  rw [Cell.Dialling, Cell.Dialling, hp']
  cases hact with
  | redial hp => exact ⟨by rw [hp]; exact nofun, rfl⟩
  | dial hp => exact ⟨by rw [hp]; exact nofun, rfl⟩
  | resetDial hp => exact ⟨by rw [hp]; exact nofun, rfl⟩

theorem Inv.move (h : Inv c) (hmove : Move c a begins clears c')
    (halone : begins = true → ∀ b, ¬ c.Dialling b) : Inv c' := by
  obtain ⟨sh', phase'⟩ := c'
  have hframe := hmove.frame
  have hact := hmove.act
  dsimp only at hact
  generalize hp' : phase' a = p' at hact
  have hout (hstage : p'.stage ≠ .dialling) : ¬ Cell.Dialling ⟨sh', phase'⟩ a := by
    rw [← hp'] at hstage
    exact hstage
  cases hact with
  | skip => exact h.mono (fun b ↦ hmove.dialling_of_eq hp') (fun n hn ↦ ⟨hn, rfl⟩)
  | lock => exact h.mono (fun b ↦ hmove.dialling_of_not (hout nofun)) (fun n hn ↦ ⟨hn, rfl⟩)
  | unlock => exact h.mono (fun b ↦ hmove.dialling_of_not (hout nofun)) (fun n hn ↦ ⟨hn, rfl⟩)
  | close =>
    exact h.mono (fun b ↦ hmove.dialling_of_eq hp')
      (fun n hn ↦ absurd hn (h.tidy.not_open_close n))
  | redial => exact .begin hframe (halone rfl) h.tidy.not_open_close
  | dial hstage hnone =>
    refine .begin hframe (halone rfl) fun n hn ↦ ?_
    exact absurd ((h.tidy n hn).symm.trans hnone) nofun
  | giveUp => exact h.mono (fun b ↦ hmove.dialling_of_not (hout nofun)) (fun n hn ↦ ⟨hn, rfl⟩)
  | store hstage =>
    refine h.store hstage (hout ?_) hframe rfl
    dsimp only
    split <;> exact nofun
  | reread => exact h.mono (fun b ↦ hmove.dialling_of_not (hout nofun)) (fun n hn ↦ ⟨hn, rfl⟩)
  | reset =>
    exact h.mono (fun b ↦ hmove.dialling_of_eq hp')
      (fun n hn ↦ absurd hn (h.tidy.not_open_close n))
  | resetDial => exact .begin hframe (halone rfl) h.tidy.not_open_close
  | resetLocked =>
    exact h.mono (fun b ↦ hmove.dialling_of_eq hp')
      (fun n hn ↦ absurd hn (h.tidy.not_open_close n))

/-- Two connections stored one after the other: the first stays open. -/
theorem not_tidy_of_two_stores (sh : Shared) : ¬ sh.store.store.Tidy := by
  intro h
  have hopen : sh.store.store.Open sh.closed.length :=
    Shared.open_store.mpr (.inl (Shared.open_store.mpr (.inr rfl)))
  have hcur := Option.some.inj (h _ hopen)
  simp [Shared.store] at hcur

/-! ## The mutex and the second read -/

/-- At most one party holds the mutex, and only a party that holds it reads again. -/
structure Excl (c : Cell κ) : Prop where
  locked : ∀ a, (c.phase a).holds = true → c.shared.locked = true
  alone : ∀ a b, (c.phase a).holds = true → (c.phase b).holds = true → a = b
  rereading : ∀ a, c.Rereading a → (c.phase a).holds = true

/-- A party that is to read the pointer again will find a connection. -/
def Ready (c : Cell κ) : Prop := ∀ a, c.Rereading a → c.shared.current ≠ none

theorem Excl.mono (h : Excl c) (hlocked : c'.shared.locked = c.shared.locked)
    (hholds : ∀ b, (c'.phase b).holds = (c.phase b).holds)
    (hrereading : ∀ b, c'.Rereading b → (c'.phase b).holds = true) : Excl c' where
  locked b hb := hlocked ▸ h.locked b (hholds b ▸ hb)
  alone b b' hb hb' := h.alone b b' (hholds b ▸ hb) (hholds b' ▸ hb')
  rereading := hrereading

/-- The party that moves holds the mutex after the move if it did before. -/
theorem Move.holds_eq (h : Move c a begins clears c')
    (ha : (c'.phase a).holds = (c.phase a).holds) (b : κ) :
    (c'.phase b).holds = (c.phase b).holds := by
  by_cases hne : b = a
  · exact hne ▸ ha
  · rw [h.frame b hne]

theorem Move.rereading_of_not (h : Move c a begins clears c') (ha : ¬ c'.Rereading a)
    (hb : c'.Rereading b) : c.Rereading b := by
  have hne : b ≠ a := fun hba ↦ ha (hba ▸ hb)
  rwa [Cell.Rereading, ← h.frame b hne]

theorem Move.rereading_of_eq (h : Move c a begins clears c') (ha : c'.phase a = c.phase a)
    (hb : c'.Rereading b) : c.Rereading b := by
  by_cases hne : b = a
  · subst hne
    rwa [Cell.Rereading, ← ha]
  · rwa [Cell.Rereading, ← h.frame b hne]

/-- A move that leaves the mutex alone, by a party that will not read again or holds it. -/
theorem Excl.keep (h : Excl c) (hmove : Move c a begins clears c')
    (hlocked : c'.shared.locked = c.shared.locked)
    (hholds : (c'.phase a).holds = (c.phase a).holds)
    (hreread : c'.Rereading a → (c'.phase a).holds = true) : Excl c' := by
  refine h.mono hlocked (hmove.holds_eq hholds) fun b hb ↦ ?_
  by_cases hne : b = a
  · subst hne
    exact hreread hb
  · rw [Cell.Rereading, hmove.frame b hne] at hb
    rw [hmove.frame b hne]
    exact h.rereading b hb

theorem Excl.lock (h : Excl c) (hmove : Move c a begins clears c')
    (hfree : c.shared.locked = false) (hlocked : c'.shared.locked = true)
    (ha : c'.phase a = ⟨true, .out⟩) : Excl c' := by
  have honly (b : κ) (hb : (c'.phase b).holds = true) : b = a := by
    by_contra hne
    rw [hmove.frame b hne] at hb
    exact Bool.false_ne_true (hfree ▸ h.locked b hb)
  refine ⟨fun _ _ ↦ hlocked, fun b b' hb hb' ↦ (honly b hb).trans (honly b' hb').symm,
    fun b hb ↦ ?_⟩
  by_cases hne : b = a
  · rw [hne, ha]
  · rw [Cell.Rereading, hmove.frame b hne] at hb
    rw [hmove.frame b hne]
    exact h.rereading b hb

theorem Excl.unlock (h : Excl c) (hmove : Move c a begins clears c')
    (hholds : (c.phase a).holds = true) (ha : c'.phase a = .out) : Excl c' := by
  have hnobody (b : κ) : ¬ (c'.phase b).holds = true := by
    intro hb
    by_cases hne : b = a
    · rw [hne, ha] at hb
      exact Bool.false_ne_true hb
    · rw [hmove.frame b hne] at hb
      exact hne (h.alone b a hb hholds)
  refine ⟨fun b hb ↦ absurd hb (hnobody b), fun b _ hb ↦ absurd hb (hnobody b), fun b hb ↦ ?_⟩
  have hna : ¬c'.Rereading a := by
    rw [Cell.Rereading, ha]
    exact nofun
  have hreread : c.Rereading b := hmove.rereading_of_not hna hb
  have hba : b = a := h.alone b a (h.rereading b hreread) hholds
  exact absurd (hba ▸ hb) hna

theorem Excl.move (h : Excl c) (hmove : Move c a begins clears c') : Excl c' := by
  obtain ⟨sh', phase'⟩ := c'
  have hact := hmove.act
  dsimp only at hact
  generalize hp' : phase' a = p' at hact
  have hkeep (hlocked : sh'.locked = c.shared.locked) (hholds : p'.holds = (c.phase a).holds)
      (hreread : p'.stage = .rereading → p'.holds = true) : Excl ⟨sh', phase'⟩ := by
    subst hp'
    exact h.keep hmove hlocked hholds hreread
  cases hact with
  | skip => exact hkeep rfl rfl (h.rereading a)
  | lock hp hfree => exact h.lock hmove hfree rfl hp'
  | unlock hp => exact h.unlock hmove hp hp'
  | close => exact hkeep (Shared.close_locked _) rfl (h.rereading a)
  | redial => exact hkeep (Shared.close_locked _) rfl nofun
  | dial => exact hkeep rfl rfl nofun
  | giveUp hp => exact hkeep rfl (hp ▸ rfl) nofun
  | store =>
    refine hkeep rfl rfl ?_
    dsimp only
    split
    · exact fun _ ↦ ‹_›
    · exact nofun
  | reread => exact hkeep rfl rfl nofun
  | reset => exact hkeep (Shared.close_locked _) rfl (h.rereading a)
  | resetDial hp => exact hkeep (Shared.close_locked _) (hp ▸ rfl) nofun
  | resetLocked => exact hkeep (Shared.close_locked _) rfl (h.rereading a)

/-- A move that keeps the pointer, after which no other party reads again. -/
theorem Ready.mono (h : Ready c) (hcur : c'.shared.current = c.shared.current)
    (hreread : ∀ b, c'.Rereading b → c.Rereading b) : Ready c' :=
  fun b hb ↦ hcur ▸ h b (hreread b hb)

/-- The pointer is cleared: nobody may be about to read it again. -/
theorem ready_iff_of_cleared (hmove : Move c a begins clears c') (hcur : c'.shared.current = none)
    (ha : ¬ c.Rereading a) (ha' : ¬ c'.Rereading a) : Ready c' ↔ ∀ b, ¬ c.Rereading b := by
  constructor
  · intro hready b hb
    have hne : b ≠ a := fun hba ↦ ha (hba ▸ hb)
    rw [Cell.Rereading, ← hmove.frame b hne] at hb
    exact hready b hb hcur
  · exact fun hnone b hb ↦ absurd (hmove.rereading_of_not ha' hb) (hnone b)

/-- A move keeps a connection for every second read exactly if it does not clear the pointer,
without the mutex, before such a read. -/
theorem Excl.ready_move_iff (h : Excl c) (hready : Ready c) (hmove : Move c a begins clears c') :
    Ready c' ↔ (clears = true → ∀ b, ¬ c.Rereading b) := by
  obtain ⟨sh', phase'⟩ := c'
  have hact := hmove.act
  dsimp only at hact
  generalize hp' : phase' a = p' at hact
  have hout (hstage : p'.stage ≠ .rereading) : ¬ Cell.Rereading ⟨sh', phase'⟩ a := by
    rw [← hp'] at hstage
    exact hstage
  have hkeep (hcur : sh'.current = c.shared.current) (hstage : p'.stage ≠ .rereading) :
      Ready ⟨sh', phase'⟩ :=
    hready.mono hcur fun b ↦ hmove.rereading_of_not (hout hstage)
  have hsame (hcur : sh'.current = c.shared.current) (hphase : p' = c.phase a) :
      Ready ⟨sh', phase'⟩ :=
    hready.mono hcur fun b ↦ hmove.rereading_of_eq (hp'.trans hphase)
  cases hact with
  | skip => exact iff_of_true (hsame rfl rfl) nofun
  | lock => exact iff_of_true (hkeep rfl nofun) nofun
  | unlock => exact iff_of_true (hkeep rfl nofun) nofun
  | close => exact iff_of_true (hsame (Shared.close_current _) rfl) nofun
  | redial => exact iff_of_true (hkeep (Shared.close_current _) nofun) nofun
  | dial => exact iff_of_true (hkeep rfl nofun) nofun
  | giveUp => exact iff_of_true (hkeep rfl nofun) nofun
  | store => exact iff_of_true (fun _ _ ↦ nofun) nofun
  | reread => exact iff_of_true (hkeep rfl nofun) nofun
  | reset hp =>
    have ha : ¬ c.Rereading a := by rw [Cell.Rereading, hp]; exact nofun
    rw [ready_iff_of_cleared hmove rfl ha (hout ha)]
    exact (imp_iff_right rfl).symm
  | resetDial hp =>
    have ha : ¬ c.Rereading a := by rw [Cell.Rereading, hp]; exact nofun
    rw [ready_iff_of_cleared hmove rfl ha (hout nofun)]
    exact (imp_iff_right rfl).symm
  | resetLocked hp hfree =>
    -- Whoever is to read again holds the mutex, which is free.
    have ha : ¬ c.Rereading a := by rw [Cell.Rereading, hp]; exact nofun
    refine iff_of_true ?_ nofun
    refine (ready_iff_of_cleared hmove rfl ha (hout ha)).mpr fun b hb ↦ ?_
    exact Bool.false_ne_true (hfree ▸ h.locked b (h.rereading b hb))

end Redial
