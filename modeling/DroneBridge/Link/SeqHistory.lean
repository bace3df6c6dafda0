import DroneBridge.Link.Dedup
import Mathlib.Data.Finset.Card

/-!
# What the history of sequence numbers decides

A history that starts empty is offered one number after another. Beside the ring, the model keeps
the list of what was accepted, newest first, so that the ring can be compared with it
(`Offered.holds_after`): a number is rejected exactly when it is among the last 32 accepted.

The numbers are eight bits wide and the frames of a sender are not. Offering frames by their number
tells what the 32 places are good for: a frame that arrives for the first time is dropped only
because of another frame a multiple of 256 away, and a copy passes only after 32 other frames.
-/

namespace DroneBridge

/-! ## Offering items by their number -/

/-- A history, and the items it accepted, newest first. -/
structure Offered (α : Type*) where
  hist : SeqHist
  accepted : List α

namespace Offered

variable {α : Type*}

def start : Offered α := ⟨.zero, []⟩

variable (num : α → UInt8)

def offer (s : Offered α) (a : α) : Offered α where
  hist := (s.hist.duplicate (num a)).2
  accepted := if (s.hist.duplicate (num a)).1 then s.accepted else a :: s.accepted

def after (as : List α) : Offered α := as.foldl (offer num) start

/-- The items whose numbers the history holds. -/
def window (s : Offered α) : List α := s.accepted.take seqHistLen

variable {num} {s : Offered α}

/-- The ring holds the numbers of the window, and they are pairwise distinct. -/
structure Faithful (num : α → UInt8) (s : Offered α) : Prop where
  holds : s.hist.ring.Holds seqHistLen (s.window.map num)
  nodup : (s.window.map num).Nodup

theorem faithful_start : Faithful num (start : Offered α) where
  holds := RingBuf.holds_empty (by decide) 0
  nodup := List.nodup_nil

theorem Faithful.duplicate_iff (h : Faithful num s) (seq : UInt8) :
    (s.hist.duplicate seq).1 = true ↔ seq ∈ s.window.map num :=
  (SeqHist.duplicate_spec h.holds seq).1

theorem window_accepted {a : α} (hnew : (s.hist.duplicate (num a)).1 = false) :
    (s.offer num a).window = a :: s.accepted.take (seqHistLen - 1) := by
  rw [window, offer, hnew]
  rfl

theorem Faithful.offer (h : Faithful num s) (a : α) : Faithful num (s.offer num a) := by
  obtain ⟨hdup, hholds⟩ := SeqHist.duplicate_spec h.holds (num a)
  by_cases hmem : num a ∈ s.window.map num
  · have hwin : (s.offer num a).window = s.window := by
      rw [window, Offered.offer, if_pos (hdup.mpr hmem), window]
    rw [if_pos hmem] at hholds
    exact ⟨hwin ▸ hholds, hwin ▸ h.nodup⟩
  · have hwin := window_accepted (Bool.eq_false_iff.mpr (hdup.not.mpr hmem))
    -- the new window is the number and all but the oldest of the old one
    have hshorter : (s.accepted.take (seqHistLen - 1)).map num <+: s.window.map num :=
      (List.take_prefix_take_left (by decide)).map num
    rw [if_neg hmem] at hholds
    refine ⟨?_, ?_⟩
    · have hcut : (num a :: s.window.map num).take seqHistLen =
          (s.offer num a).window.map num := by
        rw [hwin, List.map_cons, window, seqHistLen, List.take_succ_cons, ← List.map_take,
          List.take_take]
        rfl
      rw [← hcut]
      exact hholds
    · rw [hwin, List.map_cons, List.nodup_cons]
      exact ⟨fun hin ↦ hmem (hshorter.subset hin), h.nodup.sublist hshorter.sublist⟩

theorem faithful_after (as : List α) : Faithful num (after num as) := by
  suffices hfold : ∀ (s : Offered α), Faithful num s → Faithful num (as.foldl (offer num) s) from
    hfold start faithful_start
  induction as with
  | nil => exact fun s h ↦ h
  | cons a as ih => exact fun s h ↦ ih _ (h.offer a)

theorem mem_of_accepted {as : List α} {a : α} (ha : a ∈ (after num as).accepted) : a ∈ as := by
  suffices hfold : ∀ s : Offered α, a ∈ (as.foldl (offer num) s).accepted →
      a ∈ as ∨ a ∈ s.accepted from (hfold start ha).resolve_right List.not_mem_nil
  clear ha
  induction as with
  | nil => exact fun s h ↦ .inr h
  | cons b as ih =>
    intro s h
    rcases ih (s.offer num b) h with hmem | hmem
    · exact .inl (List.mem_cons_of_mem b hmem)
    · rw [offer] at hmem
      dsimp only at hmem
      split at hmem
      case isTrue => exact .inr hmem
      case isFalse =>
        rcases List.mem_cons.mp hmem with rfl | hmem
        · exact .inl List.mem_cons_self
        · exact .inr hmem

/-- What left the window has as many items accepted after it as the window has places. -/
theorem Faithful.card_since [DecidableEq α] (h : Faithful num s) {a : α} (ha : a ∈ s.accepted)
    (hout : a ∉ s.window) :
    seqHistLen ≤ (s.accepted.takeWhile (· ≠ a)).toFinset.card := by
  have hlen : s.window.length = seqHistLen := by
    rw [window, List.length_take_of_le]
    by_contra hshort
    exact hout (by rwa [window, List.take_of_length_le (by omega)])
  have hsub : s.window.toFinset ⊆ (s.accepted.takeWhile (· ≠ a)).toFinset := by
    intro b hb
    rw [List.mem_toFinset] at hb ⊢
    have happ : s.accepted = s.window ++ s.accepted.drop seqHistLen :=
      (List.take_append_drop seqHistLen s.accepted).symm
    have hne : ∀ c ∈ s.window, decide (c ≠ a) = true := by
      intro c hc
      exact decide_eq_true fun hca ↦ hout (hca ▸ hc)
    rw [happ, List.takeWhile_append_of_pos hne]
    exact List.mem_append_left _ hb
  calc seqHistLen = s.window.toFinset.card := by
        rw [List.toFinset_card_of_nodup (h.nodup.of_map num), hlen]
    _ ≤ (s.accepted.takeWhile (· ≠ a)).toFinset.card := Finset.card_le_card hsub

end Offered

/-! ## The history of a system and component -/

def Receiver.handle (r : Receiver) (o : Observed) : Receiver := ((r.sync o.gen).judge o).2

/-- Whether a frame's number is offered to the history of a key. -/
def Observed.offersTo (o : Observed) (key : MavlinkSeqKey) : Bool :=
  o.forward && o.frame.sysID ≠ 255 && o.frame.key = key

def offeredFor (key : MavlinkSeqKey) (os : List Observed) : List UInt8 :=
  (os.filter (·.offersTo key)).map (·.frame.seq)

namespace Receiver

variable {r : Receiver} {key : MavlinkSeqKey}

def histOf (r : Receiver) (key : MavlinkSeqKey) : SeqHist := (r.lastSeqNum key).getD .zero

theorem histOf_judge (r : Receiver) (o : Observed) (key : MavlinkSeqKey) :
    ((r.judge o).2.histOf key = if o.offersTo key then ((r.histOf key).duplicate o.frame.seq).2
      else r.histOf key) ∧ (r.judge o).2.linkGen = r.linkGen := by
  rw [judge]
  by_cases hfwd : o.forward = true
  · by_cases h255 : o.frame.sysID = 255
    · simp [hfwd, h255, Observed.offersTo]
    · by_cases hkey : o.frame.key = key
      · simp [hfwd, h255, hkey, Observed.offersTo, histOf]
      · simp [hfwd, h255, hkey, Ne.symm hkey, Observed.offersTo, histOf]
  · simp [hfwd, Observed.offersTo]

/-- While the generation stays, the history of a key follows the numbers offered for it. -/
theorem histOf_foldl {os : List Observed} (hos : ∀ o ∈ os, o.gen = r.linkGen)
    {s : Offered UInt8} (hs : r.histOf key = s.hist) :
    (os.foldl handle r).histOf key = ((offeredFor key os).foldl (Offered.offer id) s).hist := by
  induction os generalizing r s with
  | nil => exact hs
  | cons o os ih =>
    have hsync : r.sync o.gen = r := if_neg (not_not_intro (hos o List.mem_cons_self))
    obtain ⟨hhist, hgen⟩ := histOf_judge r o key
    have hos' : ∀ p ∈ os, p.gen = (r.handle o).linkGen := by
      intro p hp
      rw [handle, hsync, hgen]
      exact hos p (List.mem_cons_of_mem o hp)
    have hhandle : (r.handle o).histOf key = if o.offersTo key then (s.offer id o.frame.seq).hist
        else s.hist := by
      rw [handle, hsync, hhist, hs]
      rfl
    rw [List.foldl_cons, offeredFor, List.filter_cons]
    by_cases hoff : o.offersTo key = true
    · rw [if_pos hoff] at hhandle ⊢
      exact ih hos' hhandle
    · rw [if_neg hoff] at hhandle ⊢
      exact ih hos' hhandle

end Receiver

/-! ## Frames of a sender -/

/-- The sequence number of a sender's frame. -/
def seqNum (k : ℕ) : UInt8 := UInt8.ofNat k

theorem seqNum_eq_iff {j k : ℕ} : seqNum j = seqNum k ↔ j % 256 = k % 256 := by
  rw [seqNum, seqNum, ← UInt8.toNat_inj, UInt8.toNat_ofNat', UInt8.toNat_ofNat']

theorem exists_eq_add_mul {j k : ℕ} (h : seqNum j = seqNum k) (hne : j ≠ k) :
    ∃ d : ℤ, d ≠ 0 ∧ (j : ℤ) = k + 256 * d := by
  rw [seqNum_eq_iff] at h
  refine ⟨(j : ℤ) / 256 - (k : ℤ) / 256, ?_, ?_⟩ <;> omega

/-- **Duplicates.** A history rejects a number exactly when it is among the last 32 accepted. So a
new frame is dropped only if one of the last 32 accepted is a non-zero multiple of 256 away, and a
repeat passes only after 32 others. -/
theorem seqHist_rejects_recent :
    (∀ (r : Receiver) (gen : ℕ) (os : List Observed) (key : MavlinkSeqKey), gen ≠ r.linkGen →
      (∀ o ∈ os, o.gen = gen) →
      (os.foldl Receiver.handle (r.sync gen)).histOf key =
        (Offered.after id (offeredFor key os)).hist) ∧
    (∀ (xs : List UInt8) (x : UInt8),
      ((Offered.after id xs).hist.duplicate x).1 = true ↔
        x ∈ (Offered.after id xs).accepted.take 32) ∧
    ∀ (ks : List ℕ) (k : ℕ),
      (k ∉ ks → ((Offered.after seqNum ks).hist.duplicate (seqNum k)).1 = true →
        ∃ j ∈ (Offered.after seqNum ks).accepted.take 32,
          ∃ d : ℤ, d ≠ 0 ∧ (j : ℤ) = k + 256 * d) ∧
      (((Offered.after seqNum ks).hist.duplicate (seqNum k)).1 = false →
        ∀ j ∈ (Offered.after seqNum ks).accepted, j % 256 = k % 256 →
          32 ≤ ((Offered.after seqNum ks).accepted.takeWhile (· ≠ j)).toFinset.card) := by
  refine ⟨fun r gen os key hgen hos ↦ ?_, fun xs x ↦ ?_, fun ks k ↦ ⟨fun hfirst hdup ↦ ?_, ?_⟩⟩
  · have hsync : r.sync gen = { r with linkGen := gen, lastSeqNum := fun _ ↦ none } := if_pos hgen
    rw [hsync]
    exact Receiver.histOf_foldl hos rfl
  · rw [(Offered.faithful_after xs).duplicate_iff x, List.map_id]
    rfl
  · rw [(Offered.faithful_after ks).duplicate_iff (seqNum k)] at hdup
    obtain ⟨j, hj, hnum⟩ := List.mem_map.mp hdup
    have hne : j ≠ k := by
      rintro rfl
      exact hfirst (Offered.mem_of_accepted (List.mem_of_mem_take hj))
    exact ⟨j, hj, exists_eq_add_mul hnum hne⟩
  · intro hpass j hj hnum
    apply (Offered.faithful_after ks).card_since hj
    intro hin
    have hdup := (Offered.faithful_after ks).duplicate_iff (seqNum k) |>.mpr
      (List.mem_map.mpr ⟨j, hin, seqNum_eq_iff.mpr hnum⟩)
    rw [hpass] at hdup
    exact absurd hdup (by decide)

/-- Frame 256 is dropped for frame 0. -/
theorem seqHist_rejects_recent_wrap :
    ∃ j ∈ (Offered.after seqNum [0]).accepted.take 32,
      ∃ d : ℤ, d ≠ 0 ∧ (j : ℤ) = (256 : ℕ) + 256 * d :=
  (seqHist_rejects_recent.2.2 [0] 256).1 (by decide) rfl

end DroneBridge
