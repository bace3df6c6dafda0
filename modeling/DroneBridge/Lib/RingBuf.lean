import Mathlib.Data.List.Basic
import Mathlib.Logic.Function.Basic

/-!
# A ring that remembers the last few values

A ring of capacity `k` writes at a position that wraps around, and counts what it holds until it is
full. `Holds k r xs` says that the ring holds exactly the values `xs`, newest first. Pushing keeps
the newest `k` values (`Holds.push`), and scanning the first `n` cells finds exactly what is held
(`Holds.contains_iff`): the order of the cells does not matter to a scan.
-/

/-- Cells, the number of them in use, and the next one to write. -/
structure RingBuf (α : Type*) where
  buf : ℕ → α
  n : ℕ
  pos : ℕ

namespace RingBuf

variable {α : Type*}

/-- The empty ring, all cells `a`. -/
def empty (a : α) : RingBuf α := ⟨fun _ ↦ a, 0, 0⟩

/-- Scan the cells in use. -/
def contains [DecidableEq α] (k : ℕ) (r : RingBuf α) (x : α) : Bool :=
  (List.range (min r.n k)).any fun i ↦ r.buf i = x

/-- Write a value over the oldest cell. -/
def push (k : ℕ) (r : RingBuf α) (x : α) : RingBuf α where
  buf := Function.update r.buf r.pos x
  n := if r.n < k then r.n + 1 else r.n
  pos := (r.pos + 1) % k

/-- The cell of the value written `i` pushes before the latest. -/
def slot (k pos i : ℕ) : ℕ := if i < pos then pos - 1 - i else pos + k - 1 - i

/-- The ring holds the values `xs`, newest first. -/
structure Holds (k : ℕ) (r : RingBuf α) (xs : List α) : Prop where
  length : xs.length = r.n
  n_le : r.n ≤ k
  pos_lt : r.pos < k
  /-- Until it is full, the ring fills its cells in order. -/
  pos_eq : r.n < k → r.pos = r.n
  slot : ∀ i x, xs[i]? = some x → r.buf (RingBuf.slot k r.pos i) = x

variable {k : ℕ} {r : RingBuf α} {xs : List α}

theorem holds_empty (hk : 0 < k) (a : α) : Holds k (empty a) [] :=
  ⟨rfl, Nat.zero_le k, hk, fun _ ↦ rfl, fun i x hx ↦ by simp at hx⟩

theorem Holds.exists_slot (h : Holds k r xs) {j : ℕ} (hj : j < r.n) :
    ∃ i, i < xs.length ∧ RingBuf.slot k r.pos i = j := by
  have hlen := h.length
  have hle := h.n_le
  have hlt := h.pos_lt
  have heq := h.pos_eq
  by_cases hjp : j < r.pos
  · refine ⟨r.pos - 1 - j, ?_, ?_⟩
    · omega
    · rw [RingBuf.slot, if_pos (by omega)]
      omega
  · refine ⟨r.pos + k - 1 - j, ?_, ?_⟩
    · omega
    · rw [RingBuf.slot, if_neg (by omega)]
      omega

theorem Holds.slot_lt (h : Holds k r xs) {i : ℕ} (hi : i < xs.length) :
    RingBuf.slot k r.pos i < r.n := by
  have hlen := h.length
  have hle := h.n_le
  have hlt := h.pos_lt
  have heq := h.pos_eq
  rw [RingBuf.slot]
  split <;> omega

theorem Holds.contains_iff [DecidableEq α] (h : Holds k r xs) {x : α} :
    r.contains k x = true ↔ x ∈ xs := by
  rw [contains, Nat.min_eq_left h.n_le, List.any_eq_true]
  constructor
  · rintro ⟨j, hj, hx⟩
    rw [List.mem_range] at hj
    obtain ⟨i, hi, rfl⟩ := h.exists_slot hj
    have hslot := h.slot i xs[i] (List.getElem?_eq_getElem hi)
    rw [← of_decide_eq_true hx, hslot]
    exact List.getElem_mem hi
  · intro hx
    obtain ⟨i, hi, rfl⟩ := List.getElem_of_mem hx
    refine ⟨RingBuf.slot k r.pos i, List.mem_range.mpr (h.slot_lt hi), ?_⟩
    exact decide_eq_true (h.slot i _ (List.getElem?_eq_getElem hi))

theorem succ_mod_eq {pos : ℕ} (hpos : pos < k) :
    (pos + 1) % k = if pos + 1 = k then 0 else pos + 1 := by
  split
  case isTrue heq => rw [heq, Nat.mod_self]
  case isFalse hne => exact Nat.mod_eq_of_lt (by omega)

/-- After a push, every earlier value is one push older in the cell it was. -/
theorem slot_succ {pos i : ℕ} (hpos : pos < k) (hi : i + 1 < k) :
    RingBuf.slot k ((pos + 1) % k) (i + 1) = RingBuf.slot k pos i ∧ RingBuf.slot k pos i ≠ pos := by
  rw [succ_mod_eq hpos, RingBuf.slot, RingBuf.slot]
  split <;> split <;> split <;> omega

theorem slot_zero {pos : ℕ} (hpos : pos < k) : RingBuf.slot k ((pos + 1) % k) 0 = pos := by
  rw [succ_mod_eq hpos, RingBuf.slot]
  split <;> split <;> omega

theorem Holds.push (h : Holds k r xs) (x : α) : Holds k (r.push k x) ((x :: xs).take k) := by
  have hlen := h.length
  have hle := h.n_le
  have hlt := h.pos_lt
  have heq := h.pos_eq
  refine ⟨?_, ?_, Nat.mod_lt _ (by omega), fun hn ↦ ?_, fun i y hy ↦ ?_⟩
  · rw [List.length_take, List.length_cons, RingBuf.push]
    dsimp only
    split <;> omega
  · rw [RingBuf.push]
    dsimp only
    split <;> omega
  · rw [RingBuf.push] at hn ⊢
    dsimp only at hn ⊢
    rw [succ_mod_eq hlt]
    split at hn <;> split <;> omega
  · rw [List.getElem?_take] at hy
    split at hy
    case isFalse => exact absurd hy (by simp)
    case isTrue hik =>
      rw [RingBuf.push]
      dsimp only
      rcases i with _ | i
      · rw [slot_zero hlt, Function.update_self]
        simpa using hy
      · obtain ⟨hslot, hne⟩ := slot_succ hlt hik
        rw [hslot, Function.update_of_ne hne]
        exact h.slot i y (by simpa using hy)

end RingBuf
