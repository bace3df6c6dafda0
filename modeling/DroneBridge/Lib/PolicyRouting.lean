import Mathlib.Data.List.Sort
import Mathlib.Data.List.MinMax
import Mathlib.Data.Nat.Notation
import Mathlib.Data.Prod.Lex

/-!
# Routes as the kernel lists them, and rules over tables

A table is a list of routes with their keys, and a command on it may fail. `add` fails also where
there is a route with the key. A deletion takes the first route that answers its description.

Which table is asked for a packet is said by rules in the order of their priorities: the first one
that applies and whose table has a route for the packet decides. So a rule decides whenever those of
at most its priority are silent or agree with it (`findSome?_of_sorted`).
-/

variable {κ ρ : Type*}

abbrev RouteList (κ ρ : Type*) := List (κ × ρ)

namespace RouteList

variable [DecidableEq κ]

def delete (ok : Bool) (p : κ × ρ → Bool) (t : RouteList κ ρ) : RouteList κ ρ :=
  if ok then t.eraseP p else t

def add (ok : Bool) (k : κ) (r : ρ) (t : RouteList κ ρ) : Bool × RouteList κ ρ :=
  if ok && t.all (·.1 ≠ k) then (true, (k, r) :: t) else (false, t)

def replace (ok : Bool) (k : κ) (r : ρ) (t : RouteList κ ρ) : RouteList κ ρ :=
  if ok then (k, r) :: t.filter (·.1 ≠ k) else t

variable {ok : Bool} {p q : κ × ρ → Bool} {k : κ} {r : ρ} {t : RouteList κ ρ} {e : κ × ρ}

omit [DecidableEq κ] in
theorem mem_of_mem_delete (h : e ∈ t.delete ok p) : e ∈ t := by
  rw [delete] at h
  split_ifs at h
  · exact List.mem_of_mem_eraseP h
  · exact h

omit [DecidableEq κ] in
theorem filter_delete (h : ∀ e, p e = true → q e = false) :
    (t.delete ok p).filter q = t.filter q := by
  rw [delete]
  split_ifs
  · induction t with
    | nil => rfl
    | cons e t ih =>
      rw [List.eraseP_cons]
      cases hp : p e with
      | true => rw [cond_true, List.filter_cons, h e hp, if_neg Bool.false_ne_true]
      | false => rw [cond_false, List.filter_cons, List.filter_cons, ih]
  · rfl

theorem add_fst : (t.add ok k r).1 = (ok && t.all (·.1 ≠ k)) := by
  rw [add]
  split_ifs with h
  · exact h.symm
  · exact (Bool.eq_false_of_not_eq_true h).symm

theorem add_snd : (t.add ok k r).2 = if (t.add ok k r).1 then (k, r) :: t else t := by
  rw [add_fst, add]
  split_ifs <;> rfl

theorem mem_replace : e ∈ t.replace ok k r ↔
    ok = true ∧ e = (k, r) ∨ e ∈ t ∧ (ok = true → e.1 ≠ k) := by
  cases ok with
  | false => simp [replace]
  | true => simp [replace, List.mem_filter]

/-! ## The route for a destination -/

/-- The best of the routes whose keys fit, by a measure of the keys. -/
def best {μ : Type*} [LinearOrder μ] (fits : κ → Bool) (rank : κ → μ) (t : RouteList κ ρ) :
    Option (κ × ρ) :=
  (t.filter fun e ↦ fits e.1).argmax fun e ↦ rank e.1

variable {μ : Type*} [LinearOrder μ] {fits : κ → Bool} {rank : κ → μ}

omit [DecidableEq κ] in
theorem mem_of_best (h : t.best fits rank = some e) : e ∈ t ∧ fits e.1 = true :=
  List.mem_filter.mp (List.argmax_mem (Option.mem_def.mpr h))

omit [DecidableEq κ] in
theorem exists_best (he : e ∈ t) (hfits : fits e.1 = true) : ∃ e', t.best fits rank = some e' := by
  rw [← Option.ne_none_iff_exists', best, ne_eq, List.argmax_eq_none]
  exact List.ne_nil_of_mem (List.mem_filter.mpr ⟨he, hfits⟩)

end RouteList

/-! ## Rules in the order of their priorities -/

variable {σ α : Type*} (priority : σ → ℕ)

/-- A new rule comes after those of its own priority. -/
def insertRule (r : σ) : List σ → List σ
  | [] => [r]
  | r' :: rs => if priority r' ≤ priority r then r' :: insertRule r rs else r :: r' :: rs

variable {priority}

@[simp] theorem mem_insertRule {r r' : σ} {rs : List σ} :
    r' ∈ insertRule priority r rs ↔ r' = r ∨ r' ∈ rs := by
  induction rs with
  | nil => simp [insertRule]
  | cons a rs ih =>
    rw [insertRule]
    split_ifs
    · rw [List.mem_cons, ih, List.mem_cons, or_left_comm]
    · exact List.mem_cons

/-- The rules of a list in the order of their priorities. -/
abbrev ByPriority (priority : σ → ℕ) (rs : List σ) : Prop :=
  rs.Pairwise fun r r' ↦ priority r ≤ priority r'

theorem byPriority_insertRule {r : σ} {rs : List σ} (h : ByPriority priority rs) :
    ByPriority priority (insertRule priority r rs) := by
  induction rs with
  | nil => exact List.pairwise_singleton _ _
  | cons a rs ih =>
    rw [ByPriority, List.pairwise_cons] at h
    rw [insertRule]
    split_ifs with ha
    · refine List.pairwise_cons.mpr ⟨fun r' hr' ↦ ?_, ih h.2⟩
      obtain rfl | hmem := mem_insertRule.mp hr'
      · exact ha
      · exact h.1 r' hmem
    · refine List.pairwise_cons.mpr ⟨fun r' hr' ↦ ?_, List.pairwise_cons.mpr h⟩
      obtain rfl | hmem := List.mem_cons.mp hr'
      · omega
      · have := h.1 r' hmem
        omega

/-- A rule decides when those of at most its priority are silent or agree with it. -/
theorem findSome?_of_sorted {f : σ → Option α} {rs : List σ} (hsorted : ByPriority priority rs)
    {r : σ} (hr : r ∈ rs) {P : α → Prop} (hf : ∃ x, f r = some x)
    (hP : ∀ r' ∈ rs, priority r' ≤ priority r → ∀ x, f r' = some x → P x) :
    ∃ x, rs.findSome? f = some x ∧ P x := by
  induction rs with
  | nil => cases hr
  | cons a rs ih =>
    rw [ByPriority, List.pairwise_cons] at hsorted
    rw [List.forall_mem_cons] at hP
    have hle : priority a ≤ priority r := by
      obtain rfl | hmem := List.mem_cons.mp hr
      · exact Nat.le_refl _
      · exact hsorted.1 r hmem
    rw [List.findSome?_cons]
    cases ha : f a with
    | some x => exact ⟨x, rfl, hP.1 hle x ha⟩
    | none =>
      obtain rfl | hmem := List.mem_cons.mp hr
      · obtain ⟨x, hx⟩ := hf
        cases ha.symm.trans hx
      · exact ih hsorted.2 hmem hP.2
