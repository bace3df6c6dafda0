import Mathlib.Data.List.Basic
import Mathlib.Data.Nat.Notation

/-!
# Blocks of a stream

A reader that takes a stream in blocks of one size sees it cut at the multiples of that size,
whatever the pieces in which it was written. If the pieces are whole blocks, followed by less than
one, the reader sees the pieces (`streamBlocks_flatten_append`).
-/

variable {α : Type*} {n : ℕ}

/-- The whole blocks of size `n` of a stream. -/
def streamBlocks (n : ℕ) (s : List α) : List (List α) :=
  (List.range (s.length / n)).map fun i ↦ (s.drop (n * i)).take n

theorem streamBlocks_of_length_lt {s : List α} (h : s.length < n) : streamBlocks n s = [] := by
  rw [streamBlocks, Nat.div_eq_of_lt h, List.range_zero, List.map_nil]

theorem streamBlocks_append {b : List α} (hn : 0 < n) (hb : b.length = n) (s : List α) :
    streamBlocks n (b ++ s) = b :: streamBlocks n s := by
  have hcount : (b ++ s).length / n = s.length / n + 1 := by
    rw [List.length_append, hb, Nat.add_div_left _ hn]
  rw [streamBlocks, hcount, List.range_succ_eq_map, List.map_cons, List.map_map, streamBlocks]
  congr 1
  · rw [Nat.mul_zero, List.drop_zero, ← hb, List.take_left]
  · refine List.map_congr_left fun i _ ↦ ?_
    rw [Function.comp_apply, Nat.mul_succ, Nat.add_comm, ← List.drop_drop, ← hb, List.drop_left]

/-- Whole blocks followed by less than one are read as they were written. -/
theorem streamBlocks_flatten_append {bs : List (List α)} {rest : List α}
    (hbs : ∀ b ∈ bs, b.length = n) (hrest : rest.length < n) :
    streamBlocks n (bs.flatten ++ rest) = bs := by
  induction bs with
  | nil => exact streamBlocks_of_length_lt hrest
  | cons b bs ih =>
    rw [List.flatten_cons, List.append_assoc,
      streamBlocks_append (by omega) (hbs b List.mem_cons_self),
      ih fun b' hb' ↦ hbs b' (List.mem_cons_of_mem _ hb')]

/-! ## Rows of one length -/

/-- The element at a place of a row, in the rows written one after the other. -/
theorem getElem?_flatMap_range {f : ℕ → List α} (hf : ∀ i, (f i).length = n) {k i j : ℕ}
    (hi : i < k) (hj : j < n) : ((List.range k).flatMap f)[n * i + j]? = (f i)[j]? := by
  induction i generalizing f k with
  | zero =>
    obtain ⟨k, rfl⟩ := Nat.exists_eq_succ_of_ne_zero (Nat.ne_zero_of_lt hi)
    rw [List.range_succ_eq_map, List.flatMap_cons, Nat.mul_zero, Nat.zero_add,
      List.getElem?_append_left (by rw [hf]; exact hj)]
  | succ i ih =>
    obtain ⟨k, rfl⟩ := Nat.exists_eq_succ_of_ne_zero (Nat.ne_zero_of_lt hi)
    rw [List.range_succ_eq_map, List.flatMap_cons, List.flatMap_map,
      List.getElem?_append_right (by rw [hf, Nat.mul_succ]; omega)]
    have hplace : n * (i + 1) + j - (f 0).length = n * i + j := by
      rw [hf, Nat.mul_succ]
      omega
    rw [hplace]
    exact ih (fun i ↦ hf (i + 1)) (Nat.lt_of_succ_lt_succ hi)
