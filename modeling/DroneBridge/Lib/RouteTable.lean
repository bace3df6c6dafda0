import Mathlib.Logic.Function.Basic

/-!
# A routing table of the kernel

A table has at most one route for each key, where a key is what the kernel tells routes apart by.
Each command is one step of the kernel that may fail, and then the table is as before. Besides the
failures from outside, `add` fails when there is a route with the key, and `replace` does not.
-/

/-- The route of each key. -/
abbrev RouteTable (κ ρ : Type*) := κ → Option ρ

namespace RouteTable

variable {κ ρ : Type*} [DecidableEq κ]

def empty : RouteTable κ ρ := fun _ ↦ none

/-- The command fails unless `ok`. -/
def flush (ok : Bool) (t : RouteTable κ ρ) : RouteTable κ ρ := if ok then empty else t

def replace (ok : Bool) (t : RouteTable κ ρ) (k : κ) (r : ρ) : Bool × RouteTable κ ρ :=
  if ok then (true, Function.update t k (some r)) else (false, t)

def add (ok : Bool) (t : RouteTable κ ρ) (k : κ) (r : ρ) : Bool × RouteTable κ ρ :=
  if ok && (t k).isNone then (true, Function.update t k (some r)) else (false, t)

variable {ok : Bool} {t : RouteTable κ ρ} {k : κ} {r : ρ}

theorem replace_snd_apply (k' : κ) :
    (t.replace ok k r).2 k' = if ok = true ∧ k' = k then some r else t k' := by
  cases ok with
  | false => rfl
  | true =>
    rw [replace, if_pos rfl]
    simp [Function.update_apply]

theorem replace_snd_of_ne {k' : κ} (h : k' ≠ k) : (t.replace ok k r).2 k' = t k' := by
  rw [replace_snd_apply, if_neg fun hk ↦ h hk.2]

theorem add_fst_eq_false : (t.add ok k r).1 = false ↔ ok = false ∨ t k ≠ none := by
  rw [add]
  cases ok <;> cases t k <;> simp

theorem add_snd_of_failed (h : (t.add ok k r).1 = false) : (t.add ok k r).2 = t := by
  rw [add] at h ⊢
  split
  next hok => rw [if_pos hok] at h; cases h
  next => rfl

end RouteTable
