import DroneBridge.Lib.Clock
import Mathlib.Tactic.SplitIfs

/-!
# One decision of the PX4 link arbiter

The flight controller is reached over Ethernet and over two UARTs, and exactly one of the three
carries commands. `stepLink` is the pure decision function of `forwarder/px4_link.go`: from a
snapshot, the clock and one freshness and one openness bit per link it picks at most one link
change.

The function has eleven exits, each of which rewrites a different part of the snapshot. They are
listed once, in `LinkMove`, with the guards that lead to them; `stepLink_move` says that every
call takes one of them. Nothing after this file unfolds `stepLink`.
-/

namespace DroneBridge

/-- The links to the flight controller; `none` is the zero value of the source's `linkID`. -/
inductive LinkID
  | none
  | eth
  | telem2
  | telem3
  deriving DecidableEq, Repr

namespace LinkID

def name : LinkID → String
  | eth => "ethernet"
  | telem2 => "telem2"
  | telem3 => "telem3"
  | none => "none"

def isUart : LinkID → Bool
  | telem2 => true
  | telem3 => true
  | _ => false

theorem isUart_iff {id : LinkID} : id.isUart = true ↔ id = telem2 ∨ id = telem3 := by
  cases id <;> simp [isUart]

end LinkID

/-- Why a decision changed the link; `none` is the source's empty string, "no change". -/
inductive LinkReason
  | none
  | ethRecovered
  | ethLost
  | ethLostTelem2Absent
  | telem2Lost
  | telem2Restored
  deriving DecidableEq, Repr

def LinkReason.text : LinkReason → String
  | none => ""
  | ethRecovered => "eth-recovered"
  | ethLost => "eth-lost"
  | ethLostTelem2Absent => "eth-lost-telem2-absent"
  | telem2Lost => "telem2-lost"
  | telem2Restored => "telem2-restored"

/-- The arbiter's view of the active link. -/
structure LinkSnap where
  active : LinkID
  entered : ℕ
  /-- Until when a UART is kept while its channel is open; zero for no hold. -/
  holdUntil : ℕ
  /-- Ethernet has been declared lost and has not recovered since. -/
  ethLost : Bool
  /-- Heartbeats seen on Ethernet since it was left. -/
  ethHBSinceLoss : ℕ
  deriving DecidableEq, Repr

/-- A loss timeout that is not positive stands for two seconds. -/
def lossOrDefault (loss : ℤ) : ℤ := if loss ≤ 0 then 2 * Clock.second else loss

/-- A heartbeat count below one stands for two. -/
def recoverNOrDefault (recoverN : ℤ) : ℤ := if recoverN < 1 then 2 else recoverN

/-- A snapshot without a link stands for one on Ethernet. -/
def LinkSnap.orEth (s : LinkSnap) : LinkSnap :=
  if s.active = .none then { s with active := .eth } else s

/-- The decision once the defaults are filled in. -/
def decideLink (s : LinkSnap) (now : ℕ) (fresh isOpen : LinkID → Bool) (loss recoverN : ℤ) :
    LinkSnap × LinkReason :=
  if s.active ≠ .eth ∧ s.ethLost ∧ recoverN ≤ s.ethHBSinceLoss ∧ fresh .eth ∧ isOpen .eth then
    ({ active := .eth, entered := now, holdUntil := 0, ethLost := false, ethHBSinceLoss := 0 },
      .ethRecovered)
  else if Clock.isZero s.holdUntil = false ∧ now < s.holdUntil ∧ isOpen s.active then
    (s, .none)
  else
    match s.active with
    | .eth =>
      if fresh .eth ∨ Clock.sub now s.entered < loss then
        (s, .none)
      else
        -- The loss is recorded even when there is no backup to move to.
        let s := { s with ethLost := true, ethHBSinceLoss := 0 }
        if isOpen .telem2 then
          ({ s with active := .telem2, entered := now, holdUntil := Clock.add now loss }, .ethLost)
        else if isOpen .telem3 then
          ({ s with active := .telem3, entered := now, holdUntil := Clock.add now loss },
            .ethLostTelem2Absent)
        else
          (s, .none)
    | .telem2 =>
      if fresh .telem2 ∧ isOpen .telem2 then
        (s, .none)
      else if isOpen .telem3 then
        ({ s with active := .telem3, entered := now, holdUntil := Clock.add now loss },
          .telem2Lost)
      else
        (s, .none)
    | .telem3 =>
      if fresh .telem2 ∧ isOpen .telem2 then
        ({ s with active := .telem2, entered := now, holdUntil := Clock.add now loss },
          .telem2Restored)
      else
        (s, .none)
    | .none => ({ s with active := .eth, entered := now }, .none)

/-- At most one link change. Ethernet recovery is decided before any UART loss, and a link is not
judged until its own window ends. -/
def stepLink (s : LinkSnap) (now : ℕ) (fresh isOpen : LinkID → Bool) (loss recoverN : ℤ) :
    LinkSnap × LinkReason :=
  decideLink s.orEth now fresh isOpen (lossOrDefault loss) (recoverNOrDefault recoverN)

/-! ## The exits of a decision -/

/-- The active link is inside its hold window and its channel is open. -/
def LinkSnap.Held (s : LinkSnap) (now : ℕ) (isOpen : LinkID → Bool) : Prop :=
  0 < s.holdUntil ∧ now < s.holdUntil ∧ isOpen s.active = true

/-- Enough heartbeats were seen on an Ethernet link that is fresh and open again. -/
def LinkSnap.Recovers (s : LinkSnap) (fresh isOpen : LinkID → Bool) (recoverN : ℤ) : Prop :=
  s.active ≠ .eth ∧ s.ethLost = true ∧ recoverN ≤ s.ethHBSinceLoss ∧ fresh .eth = true ∧
    isOpen .eth = true

/-- Move to a UART and hold it for the loss timeout. -/
def LinkSnap.enterUart (s : LinkSnap) (id : LinkID) (now : ℕ) (loss : ℤ) : LinkSnap :=
  { s with active := id, entered := now, holdUntil := Clock.add now loss }

/-- Declare Ethernet lost and start counting its heartbeats anew. -/
def LinkSnap.loseEth (s : LinkSnap) : LinkSnap := { s with ethLost := true, ethHBSinceLoss := 0 }

/-- The eleven exits of `stepLink`, each with the guards that lead to it. -/
inductive LinkMove (s : LinkSnap) (now : ℕ) (fresh isOpen : LinkID → Bool) (loss recoverN : ℤ) :
    LinkSnap → LinkReason → Prop
  | recovered (h : s.Recovers fresh isOpen recoverN) :
      LinkMove s now fresh isOpen loss recoverN
        { active := .eth, entered := now, holdUntil := 0, ethLost := false, ethHBSinceLoss := 0 }
        .ethRecovered
  | held (hrec : ¬s.Recovers fresh isOpen recoverN) (hheld : s.Held now isOpen) :
      LinkMove s now fresh isOpen loss recoverN s .none
  | ethKept (hheld : ¬s.Held now isOpen) (hact : s.active = .eth)
      (hkeep : fresh .eth = true ∨ (now : ℤ) < s.entered + loss) :
      LinkMove s now fresh isOpen loss recoverN s .none
  | ethStranded (hheld : ¬s.Held now isOpen) (hact : s.active = .eth)
      (hfresh : fresh .eth = false) (hdwell : (s.entered : ℤ) + loss ≤ now)
      (h2 : isOpen .telem2 = false) (h3 : isOpen .telem3 = false) :
      LinkMove s now fresh isOpen loss recoverN s.loseEth .none
  | ethLost (hheld : ¬s.Held now isOpen) (hact : s.active = .eth)
      (hfresh : fresh .eth = false) (hdwell : (s.entered : ℤ) + loss ≤ now)
      (h2 : isOpen .telem2 = true) :
      LinkMove s now fresh isOpen loss recoverN (s.loseEth.enterUart .telem2 now loss) .ethLost
  | ethLostTelem2Absent (hheld : ¬s.Held now isOpen) (hact : s.active = .eth)
      (hfresh : fresh .eth = false) (hdwell : (s.entered : ℤ) + loss ≤ now)
      (h2 : isOpen .telem2 = false) (h3 : isOpen .telem3 = true) :
      LinkMove s now fresh isOpen loss recoverN (s.loseEth.enterUart .telem3 now loss)
        .ethLostTelem2Absent
  | telem2Kept (hrec : ¬s.Recovers fresh isOpen recoverN) (hheld : ¬s.Held now isOpen)
      (hact : s.active = .telem2) (hfresh : fresh .telem2 = true) (h2 : isOpen .telem2 = true) :
      LinkMove s now fresh isOpen loss recoverN s .none
  | telem2Lost (hrec : ¬s.Recovers fresh isOpen recoverN) (hheld : ¬s.Held now isOpen)
      (hact : s.active = .telem2) (hbad : ¬(fresh .telem2 = true ∧ isOpen .telem2 = true))
      (h3 : isOpen .telem3 = true) :
      LinkMove s now fresh isOpen loss recoverN (s.enterUart .telem3 now loss) .telem2Lost
  | telem2Stranded (hrec : ¬s.Recovers fresh isOpen recoverN) (hheld : ¬s.Held now isOpen)
      (hact : s.active = .telem2) (hbad : ¬(fresh .telem2 = true ∧ isOpen .telem2 = true))
      (h3 : isOpen .telem3 = false) :
      LinkMove s now fresh isOpen loss recoverN s .none
  | telem2Restored (hrec : ¬s.Recovers fresh isOpen recoverN) (hheld : ¬s.Held now isOpen)
      (hact : s.active = .telem3) (hfresh : fresh .telem2 = true) (h2 : isOpen .telem2 = true) :
      LinkMove s now fresh isOpen loss recoverN (s.enterUart .telem2 now loss) .telem2Restored
  | telem3Kept (hrec : ¬s.Recovers fresh isOpen recoverN) (hheld : ¬s.Held now isOpen)
      (hact : s.active = .telem3) (hbad : ¬(fresh .telem2 = true ∧ isOpen .telem2 = true)) :
      LinkMove s now fresh isOpen loss recoverN s .none

theorem decideLink_move {s : LinkSnap} (hs : s.active ≠ .none) (now : ℕ)
    (fresh isOpen : LinkID → Bool) (loss recoverN : ℤ) :
    LinkMove s now fresh isOpen loss recoverN
      (decideLink s now fresh isOpen loss recoverN).1
      (decideLink s now fresh isOpen loss recoverN).2 := by
  have hrec : (s.active ≠ .eth ∧ s.ethLost = true ∧ recoverN ≤ s.ethHBSinceLoss ∧
      fresh .eth = true ∧ isOpen .eth = true) ↔ s.Recovers fresh isOpen recoverN := Iff.rfl
  have hhold : (Clock.isZero s.holdUntil = false ∧ now < s.holdUntil ∧ isOpen s.active = true) ↔
      s.Held now isOpen := by
    rw [Clock.isZero_eq_false_iff, LinkSnap.Held]
  rw [decideLink]
  by_cases h1 : s.Recovers fresh isOpen recoverN
  · rw [if_pos (hrec.mpr h1)]
    exact .recovered h1
  rw [if_neg (mt hrec.mp h1)]
  by_cases h2 : s.Held now isOpen
  · rw [if_pos (hhold.mpr h2)]
    exact .held h1 h2
  rw [if_neg (mt hhold.mp h2)]
  cases hact : s.active with
  | none => exact absurd hact hs
  | eth =>
    simp only [Clock.sub_lt_iff]
    split_ifs with hk ho2 ho3
    · exact .ethKept h2 hact hk
    all_goals rw [not_or, Int.not_lt, Bool.not_eq_true] at hk
    · exact .ethLost h2 hact hk.1 hk.2 ho2
    · exact .ethLostTelem2Absent h2 hact hk.1 hk.2 (eq_false_of_ne_true ho2) ho3
    · have hstr : LinkMove s now fresh isOpen loss recoverN s.loseEth .none :=
        .ethStranded h2 hact hk.1 hk.2 (eq_false_of_ne_true ho2) (eq_false_of_ne_true ho3)
      rwa [LinkSnap.loseEth, hact] at hstr
  | telem2 =>
    simp only
    split_ifs with hk ho3
    · exact .telem2Kept h1 h2 hact hk.1 hk.2
    · exact .telem2Lost h1 h2 hact hk ho3
    · exact .telem2Stranded h1 h2 hact hk (eq_false_of_ne_true ho3)
  | telem3 =>
    simp only
    split_ifs with hk
    · exact .telem2Restored h1 h2 hact hk.1 hk.2
    · exact .telem3Kept h1 h2 hact hk

/-- Every decision from a snapshot with a link takes one of the eleven exits. -/
theorem stepLink_move {s : LinkSnap} (hs : s.active ≠ .none) (now : ℕ)
    (fresh isOpen : LinkID → Bool) (loss recoverN : ℤ) :
    LinkMove s now fresh isOpen (lossOrDefault loss) (recoverNOrDefault recoverN)
      (stepLink s now fresh isOpen loss recoverN).1
      (stepLink s now fresh isOpen loss recoverN).2 := by
  have horEth : s.orEth = s := if_neg hs
  rw [stepLink, horEth]
  exact decideLink_move hs now fresh isOpen _ _

end DroneBridge
