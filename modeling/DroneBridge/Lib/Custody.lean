import DroneBridge.Lib.Goroutines

/-!
# Things in the custody of goroutines

Things come to life and die. While it is alive, a thing is on a shared list or owned by one of the
goroutines that are in the middle of something. Each has a key, and a goroutine holds the keys that
it works on. It has drained a key when it owns every thing alive with that key, or knows that there
is none.

If no two goroutines hold the same key, and a thing is brought to life only by one that has drained
the key and owns nothing with it, then at most one thing is alive for each key (`Safe.step`).
Nothing else is asked of a step than what it does to the list and to the goroutine that makes it
(`StepOk`).
-/

/-- What is alive, shared and owned, and the keys that are held. -/
structure Custody (σ τ π κ : Type*) where
  alive : σ → π → Prop
  shared : σ → List π
  key : π → κ
  holds : κ → τ → Bool
  owned : τ → List π
  drained : κ → τ → Prop
  holds_of_owned : ∀ u, ∀ q ∈ owned u, holds (key q) u = true
  holds_of_drained : ∀ u k, drained k u → holds k u = true

namespace Custody

variable {σ τ π κ : Type*} (C : Custody σ τ π κ)

structure Safe (s : σ) (rs : List τ) : Prop where
  alone : ∀ k, rs.countP (C.holds k) ≤ 1
  located : ∀ q, C.alive s q → q ∈ C.shared s ∨ ∃ u ∈ rs, q ∈ C.owned u
  drained : ∀ u ∈ rs, ∀ q, C.alive s q → C.drained (C.key q) u → q ∈ C.owned u
  one : ∀ q q', C.alive s q → C.alive s q' → C.key q = C.key q' → q = q'

/-- What a step of `r` must meet that leaves `left` in its place. The keys that it takes are
free. -/
structure StepOk (s : σ) (r : τ) (s' : σ) (left : List τ) (free : κ → Prop) : Prop where
  alone : ∀ k, left.countP (C.holds k) ≤ 1
  takes : ∀ k, ∀ u ∈ left, C.holds k u = true → C.holds k r = true ∨ free k
  located : ∀ q, C.alive s' q → (C.alive s q → q ∈ C.shared s ∨ q ∈ C.owned r) →
    q ∈ C.shared s' ∨ ∃ u ∈ left, q ∈ C.owned u
  drained : ∀ u ∈ left, ∀ q, C.alive s' q → C.drained (C.key q) u →
    (C.alive s q → (q ∈ C.shared s ∨ q ∈ C.owned r) ∧ (C.drained (C.key q) r → q ∈ C.owned r)) →
    q ∈ C.owned u
  born : ∀ q, C.alive s' q → ¬ C.alive s q → C.drained (C.key q) r ∧
    (∀ q' ∈ C.owned r, C.key q' ≠ C.key q) ∧ ∀ q', C.alive s' q' → ¬ C.alive s q' → q' = q

variable {C} {s s' : σ} {r u : τ} {before left after more : List τ} {free : κ → Prop}

/-! ## Kinds of steps -/

theorem StepOk.of_idle (hlive : ∀ q, C.alive s' q → C.alive s q)
    (hshared : ∀ q, C.alive s' q → q ∈ C.shared s ∨ q ∈ C.owned r → q ∈ C.shared s')
    (hleft : ∀ u ∈ left, ∀ k, C.holds k u = false) : C.StepOk s r s' left free where
  alone k := by
    rw [List.countP_eq_zero.mpr fun u hu ↦ ne_true_of_eq_false (hleft u hu k)]
    exact Nat.zero_le 1
  takes k u hu h := absurd h (ne_true_of_eq_false (hleft u hu k))
  located q hq hbefore := .inl (hshared q hq (hbefore (hlive q hq)))
  drained u hu q _ h := by
    have hholds := C.holds_of_drained u _ h
    exact absurd hholds (ne_true_of_eq_false (hleft u hu _))
  born q hq hnot := absurd (hlive q hq) hnot

theorem countP_holds_cons (hmore : ∀ u ∈ more, ∀ k, C.holds k u = false) (k : κ) :
    (u :: more).countP (C.holds k) ≤ 1 := by
  have hzero : more.countP (C.holds k) = 0 :=
    List.countP_eq_zero.mpr fun v hv ↦ ne_true_of_eq_false (hmore v hv k)
  rw [List.countP_cons, hzero]
  split <;> decide

theorem StepOk.of_one (hlive : ∀ q, C.alive s' q → C.alive s q)
    (hmore : ∀ u ∈ more, ∀ k, C.holds k u = false)
    (htakes : ∀ k, C.holds k u = true → C.holds k r = true ∨ free k)
    (hlocated : ∀ q, C.alive s' q → q ∈ C.shared s ∨ q ∈ C.owned r →
      q ∈ C.shared s' ∨ q ∈ C.owned u)
    (hdrained : ∀ q, C.alive s' q → C.drained (C.key q) u → q ∈ C.shared s ∨ q ∈ C.owned r →
      (C.drained (C.key q) r → q ∈ C.owned r) → q ∈ C.owned u) :
    C.StepOk s r s' (u :: more) free where
  alone := countP_holds_cons hmore
  takes k v hv h := by
    rcases List.mem_cons.mp hv with rfl | hv
    · exact htakes k h
    · exact absurd h (ne_true_of_eq_false (hmore v hv k))
  located q hq hbefore := (hlocated q hq (hbefore (hlive q hq))).imp_right fun hu ↦
    ⟨u, List.mem_cons_self, hu⟩
  drained v hv q hq h hbefore := by
    rcases List.mem_cons.mp hv with rfl | hv
    · obtain ⟨hplace, hr⟩ := hbefore (hlive q hq)
      exact hdrained q hq h hplace hr
    · have hholds := C.holds_of_drained v _ h
      exact absurd hholds (ne_true_of_eq_false (hmore v hv _))
  born q hq hnot := absurd (hlive q hq) hnot

theorem StepOk.of_birth {q₀ : π} (hlive : ∀ q, C.alive s' q → C.alive s q ∨ q = q₀)
    (hmore : ∀ u ∈ more, ∀ k, C.holds k u = false)
    (htakes : ∀ k, C.holds k u = true → C.holds k r = true)
    (hshared : C.shared s' = C.shared s) (hr : C.owned r = []) (hu : C.owned u = [q₀])
    (hdrained : ∀ k, C.drained k u → C.drained k r) (hkey : C.drained (C.key q₀) r) :
    C.StepOk s r s' (u :: more) free where
  alone := countP_holds_cons hmore
  takes k v hv h := by
    rcases List.mem_cons.mp hv with rfl | hv
    · exact .inl (htakes k h)
    · exact absurd h (ne_true_of_eq_false (hmore v hv k))
  located q hq hbefore := by
    rcases hlive q hq with hold | rfl
    · rw [hr] at hbefore
      exact .inl (hshared ▸ (hbefore hold).resolve_right List.not_mem_nil)
    · exact .inr ⟨u, List.mem_cons_self, hu ▸ List.mem_singleton_self q⟩
  drained v hv q hq h hbefore := by
    rcases List.mem_cons.mp hv with rfl | hv
    · rcases hlive q hq with hold | rfl
      · have hnil := (hbefore hold).2 (hdrained _ h)
        rw [hr] at hnil
        cases hnil
      · exact hu ▸ List.mem_singleton_self q
    · have hholds := C.holds_of_drained v _ h
      exact absurd hholds (ne_true_of_eq_false (hmore v hv _))
  born q hq hnot := by
    obtain rfl := (hlive q hq).resolve_left hnot
    refine ⟨hkey, ?_, fun q' hq' hnot' ↦ (hlive q' hq').resolve_left hnot'⟩
    rw [hr]
    exact fun _ h ↦ absurd h List.not_mem_nil

/-! ## The rule -/

theorem mem_cons_middle (hu : u ∈ before ++ after) : u ∈ before ++ r :: after := by
  simp only [List.mem_append, List.mem_cons] at hu ⊢
  tauto

/-- Two goroutines at different places do not hold the same key. -/
theorem Safe.not_holds (h : C.Safe s (before ++ r :: after)) {k : κ} (hr : C.holds k r = true)
    (hu : u ∈ before ++ after) : C.holds k u = false := by
  by_contra hholds
  rw [Bool.not_eq_false] at hholds
  have halone := h.alone k
  have hpos : 0 < (before ++ after).countP (C.holds k) := List.countP_pos_iff.mpr ⟨u, hu, hholds⟩
  rw [List.countP_append, List.countP_cons_of_pos hr] at halone
  rw [List.countP_append] at hpos
  omega

/-- A thing alive whose key the goroutine has or takes is shared or its own. -/
theorem Safe.shared_or_owned (h : C.Safe s (before ++ r :: after))
    (hfree : ∀ k, free k → ∀ u ∈ before ++ r :: after, C.holds k u = false) {q : π}
    (hq : C.alive s q) (hk : C.holds (C.key q) r = true ∨ free (C.key q)) :
    q ∈ C.shared s ∨ q ∈ C.owned r := by
  rcases h.located q hq with hshared | ⟨v, hv, hown⟩
  · exact .inl hshared
  · have hvholds := C.holds_of_owned v q hown
    rcases hk with hr | hfreeq
    · rcases List.mem_append.mp hv with hbefore | hv
      · exact absurd hvholds
          (ne_true_of_eq_false (h.not_holds hr (List.mem_append_left _ hbefore)))
      · rcases List.mem_cons.mp hv with rfl | hafter
        · exact .inr hown
        · exact absurd hvholds
            (ne_true_of_eq_false (h.not_holds hr (List.mem_append_right _ hafter)))
    · exact absurd hvholds (ne_true_of_eq_false (hfree _ hfreeq v hv))

theorem Safe.step_alone (h : C.Safe s (before ++ r :: after)) (hok : C.StepOk s r s' left free)
    (hfree : ∀ k, free k → ∀ u ∈ before ++ r :: after, C.holds k u = false) (k : κ) :
    (before ++ (left ++ after)).countP (C.holds k) ≤ 1 := by
  have hcount : (before ++ (left ++ after)).countP (C.holds k) =
      (before ++ after).countP (C.holds k) + left.countP (C.holds k) := by
    simp only [List.countP_append]
    omega
  rw [hcount]
  by_cases hany : ∃ u ∈ left, C.holds k u = true
  · -- the key was held by the goroutine, or free
    obtain ⟨u, hu, hholds⟩ := hany
    have hzero : (before ++ after).countP (C.holds k) = 0 := by
      refine List.countP_eq_zero.mpr fun v hv ↦ ne_true_of_eq_false ?_
      rcases hok.takes k u hu hholds with hrk | hfreek
      · exact h.not_holds hrk hv
      · exact hfree k hfreek v (mem_cons_middle hv)
    have hleft := hok.alone k
    omega
  · have hleft : left.countP (C.holds k) = 0 :=
      List.countP_eq_zero.mpr fun u hu hholds ↦ hany ⟨u, hu, hholds⟩
    have halone := h.alone k
    rw [List.countP_append, List.countP_cons] at halone
    rw [List.countP_append]
    omega

theorem Safe.step_located (h : C.Safe s (before ++ r :: after)) (hok : C.StepOk s r s' left free)
    {q : π} (hq : C.alive s' q) :
    q ∈ C.shared s' ∨ ∃ u ∈ before ++ (left ++ after), q ∈ C.owned u := by
  by_cases hplace : C.alive s q → q ∈ C.shared s ∨ q ∈ C.owned r
  · refine (hok.located q hq hplace).imp_right fun ⟨u, hu, hown⟩ ↦ ⟨u, ?_, hown⟩
    exact List.mem_append_right _ (List.mem_append_left _ hu)
  · -- it is owned by another goroutine
    obtain ⟨hold, hnot⟩ := Classical.not_imp.mp hplace
    obtain ⟨hnshared, hnown⟩ := not_or.mp hnot
    obtain ⟨v, hv, hown⟩ := (h.located q hold).resolve_left hnshared
    refine .inr ⟨v, ?_, hown⟩
    rcases List.mem_append.mp hv with hbefore | hv
    · exact List.mem_append_left _ hbefore
    · rcases List.mem_cons.mp hv with rfl | hafter
      · exact absurd hown hnown
      · exact List.mem_append_right _ (List.mem_append_right _ hafter)

/-- Nothing comes to life behind the back of a goroutine that has drained the key. -/
theorem Safe.step_drained (h : C.Safe s (before ++ r :: after)) (hok : C.StepOk s r s' left free)
    (hfree : ∀ k, free k → ∀ u ∈ before ++ r :: after, C.holds k u = false)
    (hu : u ∈ before ++ (left ++ after)) {q : π} (hq : C.alive s' q)
    (hdrained : C.drained (C.key q) u) : q ∈ C.owned u := by
  have hr : r ∈ before ++ r :: after := List.mem_append_right _ List.mem_cons_self
  have hholds := C.holds_of_drained u _ hdrained
  by_cases hleft : u ∈ left
  · refine hok.drained u hleft q hq hdrained fun hold ↦ ⟨?_, h.drained r hr q hold⟩
    exact h.shared_or_owned hfree hold (hok.takes _ u hleft hholds)
  · have hother : u ∈ before ++ after := by
      simp only [List.mem_append] at hu ⊢
      tauto
    by_cases hold : C.alive s q
    · exact h.drained u (mem_cons_middle hother) q hold hdrained
    · have hrholds := C.holds_of_drained r _ (hok.born q hq hold).1
      exact absurd hholds (ne_true_of_eq_false (h.not_holds hrholds hother))

theorem Safe.step_one (h : C.Safe s (before ++ r :: after)) (hok : C.StepOk s r s' left free)
    {q q' : π} (hq : C.alive s' q) (hq' : C.alive s' q') (hkey : C.key q = C.key q') : q = q' := by
  have hr : r ∈ before ++ r :: after := List.mem_append_right _ List.mem_cons_self
  -- what is born is alone, since the key was drained and nothing was owned
  have hborn : ∀ q q', C.alive s' q → C.alive s' q' → C.key q = C.key q' → ¬ C.alive s q →
      q = q' := by
    intro q q' hq hq' hkey hnot
    obtain ⟨hdrained, howned, hunique⟩ := hok.born q hq hnot
    by_cases hold' : C.alive s q'
    · have hown := h.drained r hr q' hold' (hkey ▸ hdrained)
      exact absurd hkey.symm (howned q' hown)
    · exact (hunique q' hq' hold').symm
  by_cases hold : C.alive s q
  · by_cases hold' : C.alive s q'
    · exact h.one q q' hold hold' hkey
    · exact (hborn q' q hq' hq hkey.symm hold').symm
  · exact hborn q q' hq hq' hkey hold

/-- **The rule.** -/
theorem Safe.step (h : C.Safe s (before ++ r :: after)) (hok : C.StepOk s r s' left free)
    (hfree : ∀ k, free k → ∀ u ∈ before ++ r :: after, C.holds k u = false) :
    C.Safe s' (before ++ (left ++ after)) where
  alone := h.step_alone hok hfree
  located _ hq := h.step_located hok hq
  drained _ hu _ hq hdrained := h.step_drained hok hfree hu hq hdrained
  one _ _ hq hq' hkey := h.step_one hok hq hq' hkey

end Custody
