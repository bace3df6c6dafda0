import Mathlib.Analysis.Convex.Basic
import Mathlib.Tactic.Linarith

/-!
# Between two of a set

The numbers that lie between two members of a set make up its hull on the line. The hull has with
two numbers everything between them, and so every mean of them; a monotone function takes hulls to
hulls. A quantity that only ever moves towards members of the set therefore never leaves the hull.
-/

/-- What lies between two members of the set. -/
def Hull {α : Type*} [LE α] (s : Set α) : Set α := {x | ∃ lo ∈ s, ∃ hi ∈ s, lo ≤ x ∧ x ≤ hi}

namespace Hull

section Preorder

variable {α β : Type*} [Preorder α] [Preorder β] {s t : Set α} {x y : α}

theorem mem_of_mem (hx : x ∈ s) : x ∈ Hull s := ⟨x, hx, x, hx, le_rfl, le_rfl⟩

theorem mono (hst : s ⊆ t) : Hull s ⊆ Hull t := by
  rintro x ⟨lo, hlo, hi, hhi, hle, hge⟩
  exact ⟨lo, hst hlo, hi, hst hhi, hle, hge⟩

theorem ordConnected (s : Set α) : (Hull s).OrdConnected := by
  refine ⟨?_⟩
  rintro x ⟨lo, hlo, -, -, hle, -⟩ y ⟨-, -, hi, hhi, -, hge⟩ z hz
  exact ⟨lo, hlo, hi, hhi, hle.trans hz.1, hz.2.trans hge⟩

theorem le_of_forall_le {b : α} (hb : ∀ a ∈ s, b ≤ a) (hx : x ∈ Hull s) : b ≤ x := by
  obtain ⟨lo, hlo, -, -, hle, -⟩ := hx
  exact (hb lo hlo).trans hle

theorem map {f : α → β} (hf : Monotone f) (hx : x ∈ Hull s) : f x ∈ Hull (f '' s) := by
  obtain ⟨lo, hlo, hi, hhi, hle, hge⟩ := hx
  exact ⟨f lo, ⟨lo, hlo, rfl⟩, f hi, ⟨hi, hhi, rfl⟩, hf hle, hf hge⟩

end Preorder

variable {K : Type*} [Field K] [LinearOrder K] [IsStrictOrderedRing K] {s : Set K} {x y a : K}

theorem mem_mean (hx : x ∈ Hull s) (hy : y ∈ Hull s) (ha : 0 ≤ a) (ha' : a ≤ 1) :
    x * (1 - a) + y * a ∈ Hull s := by
  have hconvex : Convex K (Hull s) := (ordConnected s).convex
  have hmem := hconvex hx hy (sub_nonneg.mpr ha') ha (sub_add_cancel 1 a)
  rwa [smul_eq_mul, smul_eq_mul, mul_comm, mul_comm a] at hmem

theorem mem_towards {b : K} (hx : x ∈ Hull s) (hy : y ∈ Hull s) (hb : 0 ≤ b) :
    x + max (-b) (min (y - x) b) ∈ Hull s := by
  refine (ordConnected s).uIcc_subset hx hy ?_
  rw [Set.mem_uIcc]
  rcases le_total x y with hle | hle
  · left
    have hmin : 0 ≤ min (y - x) b := le_min (sub_nonneg.mpr hle) hb
    rw [max_eq_right ((neg_nonpos.mpr hb).trans hmin)]
    have hstep := min_le_left (y - x) b
    constructor <;> linarith
  · right
    have hneg : y - x ≤ 0 := sub_nonpos.mpr hle
    rw [min_eq_left (hneg.trans hb)]
    have hstep := le_max_right (-b) (y - x)
    have hmax : max (-b) (y - x) ≤ 0 := max_le (neg_nonpos.mpr hb) hneg
    constructor <;> linarith

end Hull
