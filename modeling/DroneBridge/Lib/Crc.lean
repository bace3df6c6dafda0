import Mathlib.Data.List.Basic
import Mathlib.Data.List.GetD

/-!
# Cyclic redundancy checks

A register takes in one bit after another, lowest bit first: the bit is added to the bit shifted
out, and their sum decides whether the polynomial is added to the register. The polynomial is
reflected, its constant term in the highest bit.

The register is linear (`feed_xor`), so two messages have the same check exactly when their
difference, fed into an empty register, leaves it empty. A difference within as many bits as the
register is wide never does (`feed_burst_ne_zero`): going backwards from an empty register, each
step determines the bit that was fed and the register before it.
-/

namespace Crc

variable {w : ℕ} (p : BitVec w)

/-- The register takes in a bit. -/
def step (s : BitVec w) (b : Bool) : BitVec w :=
  s >>> 1 ^^^ if s.getLsbD 0 ^^ b then p else 0#w

/-- The register takes in a message. -/
def feed (s : BitVec w) (bs : List Bool) : BitVec w := bs.foldl (step p) s

variable {p} {s t : BitVec w} {b c : Bool} {bs cs : List Bool}

theorem getLsbD_step (i : ℕ) :
    (step p s b).getLsbD i = (s.getLsbD (i + 1) ^^ ((s.getLsbD 0 ^^ b) && p.getLsbD i)) := by
  rw [step, BitVec.getLsbD_xor, BitVec.getLsbD_ushiftRight, Nat.add_comm]
  cases s.getLsbD 0 ^^ b <;> simp

@[simp] theorem feed_nil : feed p s [] = s := rfl

@[simp] theorem feed_cons : feed p s (b :: bs) = feed p (step p s b) bs := rfl

theorem feed_append : feed p s (bs ++ cs) = feed p (feed p s bs) cs := List.foldl_append

/-! ## Linearity -/

theorem step_xor : step p (s ^^^ t) (b ^^ c) = step p s b ^^^ step p t c := by
  apply BitVec.eq_of_getLsbD_eq
  intro i _
  simp only [BitVec.getLsbD_xor, getLsbD_step]
  cases p.getLsbD i
  · simp only [Bool.and_false, Bool.xor_false]
  · simp only [Bool.and_true, Bool.xor_assoc, Bool.xor_left_comm, Bool.xor_comm]

theorem feed_xor (hlen : bs.length = cs.length) :
    feed p (s ^^^ t) (List.zipWith xor bs cs) = feed p s bs ^^^ feed p t cs := by
  induction bs generalizing s t cs with
  | nil =>
    obtain rfl := List.eq_nil_of_length_eq_zero hlen.symm
    rfl
  | cons b bs ih =>
    rcases cs with _ | ⟨c, cs⟩
    · exact absurd hlen (Nat.succ_ne_zero _)
    · rw [List.zipWith_cons_cons, feed_cons, feed_cons, feed_cons, step_xor]
      exact ih (Nat.succ.inj hlen)

/-! ## Zeros -/

theorem feed_zero (h : ∀ b ∈ bs, b = false) : feed p 0#w bs = 0#w := by
  induction bs with
  | nil => rfl
  | cons b bs ih =>
    have hstep : step p 0#w b = 0#w := by
      rw [h b List.mem_cons_self, step]
      simp
    rw [feed_cons, hstep]
    exact ih fun c hc ↦ h c (List.mem_cons_of_mem b hc)

/-- While the bits that come in equal those that leave, the register shifts. -/
theorem feed_eq_shift (h : ∀ i < bs.length, bs[i]? = some (s.getLsbD i)) :
    feed p s bs = s >>> bs.length := by
  induction bs generalizing s with
  | nil => simp
  | cons b bs ih =>
    have hb : b = s.getLsbD 0 := Option.some.inj (h 0 (Nat.succ_pos _))
    have hstep : step p s b = s >>> 1 := by
      rw [step, hb]
      simp
    rw [feed_cons, hstep, ih, List.length_cons, ← BitVec.shiftRight_add, Nat.add_comm]
    intro i hi
    rw [BitVec.getLsbD_ushiftRight, Nat.add_comm]
    exact h (i + 1) (Nat.succ_lt_succ hi)

variable (hp : p.getLsbD (w - 1) = true)

include hp

/-! ## Backwards -/

/-- The highest bit of the register tells whether the polynomial was added. -/
theorem getLsbD_step_top (hw : 0 < w) : (step p s b).getLsbD (w - 1) = (s.getLsbD 0 ^^ b) := by
  rw [getLsbD_step, hp, Nat.sub_add_cancel hw, BitVec.getLsbD_of_ge s w (Nat.le_refl w),
    Bool.and_true, Bool.false_xor]

theorem getLsbD_of_feed_eq_zero (hlen : bs.length ≤ w) (h : feed p s bs = 0#w) (i : ℕ) :
    s.getLsbD i = bs.getD i false := by
  induction bs generalizing s i with
  | nil =>
    rw [feed_nil] at h
    rw [h, BitVec.getLsbD_zero]
    rfl
  | cons b bs ih =>
    have hw : bs.length < w := hlen
    have hback := ih (Nat.le_of_lt hw) h
    have htop := hback (w - 1)
    rw [getLsbD_step_top hp (by omega), List.getD_eq_default _ _ (by omega)] at htop
    have hbit : s.getLsbD 0 = b := by simpa using htop
    rcases i with _ | i
    · exact hbit
    · rw [List.getD_cons_succ, ← hback i, getLsbD_step, htop, Bool.false_and, Bool.xor_false]

theorem eq_zero_of_feed_eq_zero (hw : 0 < w) (hbs : ∀ b ∈ bs, b = false)
    (h : feed p s bs = 0#w) : s = 0#w := by
  induction bs generalizing s with
  | nil => exact h
  | cons b bs ih =>
    have hstep : feed p s [b] = 0#w := ih (fun c hc ↦ hbs c (List.mem_cons_of_mem b hc)) h
    have hlen : [b].length ≤ w := hw
    apply BitVec.eq_of_getLsbD_eq
    intro i _
    rw [getLsbD_of_feed_eq_zero hp hlen hstep i, hbs b List.mem_cons_self]
    rcases i with _ | i <;> simp

theorem feed_burst_ne_zero (hw : 0 < w) {lo : ℕ} (htrue : true ∈ bs)
    (hburst : ∀ i, bs[i]? = some true → lo ≤ i ∧ i < lo + w) : feed p 0#w bs ≠ 0#w := by
  intro h
  have hsplit : bs = bs.take lo ++ ((bs.drop lo).take w ++ bs.drop (lo + w)) := by
    rw [← List.drop_drop, List.take_append_drop, List.take_append_drop]
  have hbefore : ∀ b ∈ bs.take lo, b = false := by
    intro b hb
    obtain ⟨i, hi⟩ := List.getElem?_of_mem hb
    rw [List.getElem?_take] at hi
    by_contra htrue
    rw [Bool.not_eq_false] at htrue
    split at hi
    case isTrue hlt => exact absurd (hburst i (htrue ▸ hi)).1 (by omega)
    case isFalse => exact absurd hi (by simp)
  have hafter : ∀ b ∈ bs.drop (lo + w), b = false := by
    intro b hb
    obtain ⟨i, hi⟩ := List.getElem?_of_mem hb
    rw [List.getElem?_drop] at hi
    by_contra htrue
    rw [Bool.not_eq_false] at htrue
    exact absurd (hburst _ (htrue ▸ hi)).2 (by omega)
  rw [hsplit, feed_append, feed_zero hbefore, feed_append] at h
  have hmid := getLsbD_of_feed_eq_zero hp (List.length_take_le _ _)
    (eq_zero_of_feed_eq_zero hp hw hafter h)
  obtain ⟨i, hi⟩ := List.getElem?_of_mem htrue
  obtain ⟨hlo, hhi⟩ := hburst i hi
  have hbit := hmid (i - lo)
  rw [BitVec.getLsbD_zero, List.getD_eq_getElem?_getD, List.getElem?_take_of_lt (by omega),
    List.getElem?_drop, Nat.add_sub_cancel' hlo, hi] at hbit
  exact absurd hbit (by simp)

/-- Messages that differ in such a burst have different checks. -/
theorem feed_ne_of_burst (hw : 0 < w) (hlen : bs.length = cs.length) (hne : bs ≠ cs) {lo : ℕ}
    (hburst : ∀ i, bs[i]? ≠ cs[i]? → lo ≤ i ∧ i < lo + w) : feed p s bs ≠ feed p s cs := by
  intro heq
  have hdiff : feed p 0#w (List.zipWith xor bs cs) = 0#w := by
    have hxor : feed p (s ^^^ s) (List.zipWith xor bs cs) = feed p s bs ^^^ feed p s cs :=
      feed_xor hlen
    rwa [heq, BitVec.xor_self, BitVec.xor_self] at hxor
  have hbit (i : ℕ) : (List.zipWith xor bs cs)[i]? = some true ↔ bs[i]? ≠ cs[i]? := by
    rcases Nat.lt_or_ge i bs.length with hlt | hge
    · have hlt' : i < cs.length := hlen ▸ hlt
      rw [List.getElem?_zipWith, List.getElem?_eq_getElem hlt, List.getElem?_eq_getElem hlt']
      simp
    · rw [List.getElem?_zipWith, List.getElem?_eq_none hge, List.getElem?_eq_none (hlen ▸ hge)]
      simp
  obtain ⟨i, hi⟩ : ∃ i, bs[i]? ≠ cs[i]? :=
    not_forall.mp fun hall ↦ hne (List.ext_getElem? hall)
  exact feed_burst_ne_zero hp hw (List.mem_of_getElem? ((hbit i).mpr hi))
    (fun j hj ↦ hburst j ((hbit j).mp hj)) hdiff

end Crc
