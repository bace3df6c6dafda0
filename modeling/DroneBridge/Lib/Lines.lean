import Mathlib.Data.List.Basic

/-!
# Lines of a stream that arrives in pieces

A line reader takes the lines that have ended from what it has and keeps the rest for later. The
ended lines of a stream are all the parts between delimiters but the last, and the rest is the last
part. Reading a stream in two pieces, with the rest of the first put before the second, gives the
same lines and the same rest as reading it at once (`takeLines_append`).
-/

variable {α : Type*} [BEq α] [LawfulBEq α] {d : α}

/-- The lines of `s` that end with `d`, without it, and what follows the last `d`. -/
def takeLines (d : α) (s : List α) : List (List α) × List α :=
  ((s.splitOn d).dropLast, (s.splitOn d).getLast (List.splitOn_ne_nil d s))

theorem takeLines_of_notMem {s : List α} (h : d ∉ s) : takeLines d s = ([], s) := by
  simp [takeLines, List.splitOn_eq_singleton h]

theorem takeLines_cons {line : List α} (h : d ∉ line) (s : List α) :
    takeLines d (line ++ d :: s) = (line :: (takeLines d s).1, (takeLines d s).2) := by
  simp [takeLines, List.splitOn_append_cons_self_of_not_mem h, List.dropLast_cons_of_ne_nil,
    List.getLast_cons, List.splitOn_ne_nil]

/-- Induction on the lines of a stream: a stream has no delimiter, or begins with a line. -/
@[elab_as_elim] theorem lines_induction {motive : List α → Prop} (d : α)
    (rest : ∀ s, d ∉ s → motive s)
    (line : ∀ l s, d ∉ l → motive s → motive (l ++ d :: s)) (s : List α) : motive s := by
  induction h : s.length using Nat.strongRecOn generalizing s with
  | ind n ih =>
    by_cases hd : d ∈ s
    · obtain ⟨l, t, rfl, hl⟩ := List.eq_append_cons_of_mem hd
      refine line l t hl (ih t.length ?_ t rfl)
      simp only [List.length_append, List.length_cons] at h
      omega
    · exact rest s hd

theorem takeLines_append (s t : List α) :
    takeLines d (s ++ t) =
      ((takeLines d s).1 ++ (takeLines d ((takeLines d s).2 ++ t)).1,
        (takeLines d ((takeLines d s).2 ++ t)).2) := by
  induction s using lines_induction d with
  | rest s hs => rw [takeLines_of_notMem hs, List.nil_append]
  | line l s hl ih =>
    rw [List.append_assoc, List.cons_append, takeLines_cons hl, takeLines_cons hl, ih]
    rfl

theorem notMem_takeLines_snd (s : List α) : d ∉ (takeLines d s).2 := by
  induction s using lines_induction d with
  | rest s hs => rwa [takeLines_of_notMem hs]
  | line l s hl ih => rwa [takeLines_cons hl]
