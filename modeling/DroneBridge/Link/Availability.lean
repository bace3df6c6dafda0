import DroneBridge.Link.Arbiter

/-!
# A channel for commands

Commands are written to the registered channel of the active link, and fail when it has none. The
arbiter learns about a link from two independent inputs: channels are registered by the listener,
while heartbeats on Ethernet are also noted by the broadcast watcher, which has no channel at all.
Every exit of a decision that keeps a UART or returns to Ethernet asks for an open channel; the
exit that keeps Ethernet only asks for a fresh heartbeat. That exit is the one way to stay on a
link without a channel while a live UART is at hand.
-/

namespace DroneBridge

/-- The channel `write` sends a command to, or the error it returns. -/
def Px4Arbiter.commandChannel (a : Px4Arbiter) : Except String Channel :=
  match a.ch a.snap.active with
  | none => .error ("no open channel on PX4 link " ++ a.snap.active.name)
  | some c => .ok c

/-- A UART with a registered channel and a heartbeat younger than the loss timeout. -/
def Px4Arbiter.LiveUart (a : Px4Arbiter) (now : ℕ) : Prop :=
  ∃ id : LinkID, id.isUart = true ∧ a.isOpen id = true ∧ a.fresh now id = true

section Move

variable {s s' : LinkSnap} {now : ℕ} {fresh isOpen : LinkID → Bool} {loss recoverN : ℤ}
  {reason : LinkReason}

/-- From a closed link with a live UART at hand, a decision ends on an open link unless it keeps a
fresh Ethernet. -/
theorem LinkMove.isOpen_iff (hm : LinkMove s now fresh isOpen loss recoverN s' reason)
    (hclosed : isOpen s.active = false) (hdwell : (s.entered : ℤ) + loss ≤ now)
    (huart : isOpen .telem2 = true ∧ fresh .telem2 = true ∨
      isOpen .telem3 = true ∧ fresh .telem3 = true) :
    isOpen s'.active = true ↔ ¬(s.active = .eth ∧ fresh .eth = true) := by
  rcases hm with ⟨hne, -, -, -, hopen⟩ | ⟨-, -, -, hopen⟩ | ⟨-, hact, hkeep⟩ |
    ⟨-, hact, hfresh, -, h2, h3⟩ | ⟨-, hact, hfresh, -, h2⟩ | ⟨-, hact, hfresh, -, -, h3⟩ |
    ⟨-, -, hact, -, h2⟩ | ⟨-, -, hact, -, h3⟩ | ⟨-, -, hact, -, h3⟩ | ⟨-, -, hact, -, h2⟩ |
    ⟨-, -, hact, hbad⟩
  case recovered => exact iff_of_true hopen fun h ↦ hne h.1
  case held => rw [hclosed] at hopen; exact absurd hopen (by decide)
  case ethKept =>
    have hfresh : fresh .eth = true := hkeep.resolve_right (by omega)
    exact iff_of_false (by rw [hclosed]; decide) fun h ↦ h ⟨hact, hfresh⟩
  case ethStranded =>
    rw [h2, h3] at huart
    simp at huart
  case ethLost => exact iff_of_true h2 fun h ↦ by simp [hfresh] at h
  case ethLostTelem2Absent => exact iff_of_true h3 fun h ↦ by simp [hfresh] at h
  case telem2Kept => rw [hact, h2] at hclosed; exact absurd hclosed (by decide)
  case telem2Lost => exact iff_of_true h3 fun h ↦ by simp [hact] at h
  case telem2Stranded =>
    rw [hact] at hclosed
    rw [hclosed, h3] at huart
    simp at huart
  case telem2Restored => exact iff_of_true h2 fun h ↦ by simp [hact] at h
  case telem3Kept =>
    rw [hact] at hclosed
    rcases huart with huart | huart
    · exact absurd huart.symm hbad
    · rw [hclosed] at huart; exact absurd huart.1 (by decide)

end Move

/-- **When a closed link is given up.** With a live UART at hand, a health check leaves a link
without a channel, entered at least the loss timeout ago, exactly when it is not a fresh Ethernet.
-/
theorem closed_link_left_iff {r₀ r : LinkRun} {es : List LinkEvent} {now : ℕ} (h₀ : r₀.Init)
    (hrun : linkMachine.run r₀ es = some r) (hloss : 0 < r.arb.loss)
    (hclosed : r.arb.ch r.arb.snap.active = none)
    (hdwell : (r.arb.snap.entered : ℤ) + r.arb.loss ≤ now) (huart : r.arb.LiveUart now) :
    ((r.arb.evaluate now).1.ch (r.arb.evaluate now).1.snap.active).isSome = true ↔
      ¬(r.arb.snap.active = .eth ∧ r.arb.fresh now .eth = true) := by
  have hinv := h₀.inv_of_run hrun
  have hmove := Px4Arbiter.evaluate_move hinv.snap.active_ne_none now
  have hdefault : lossOrDefault r.arb.loss = r.arb.loss := if_neg (by omega)
  rw [hdefault] at hmove
  have hnone := (hmove.snapInv hinv.snap).active_ne_none
  have hisOpen : r.arb.isOpen r.arb.snap.active = false := by
    rw [Px4Arbiter.isOpen, hclosed]
    simp
  have hlive : r.arb.isOpen .telem2 = true ∧ r.arb.fresh now .telem2 = true ∨
      r.arb.isOpen .telem3 = true ∧ r.arb.fresh now .telem3 = true := by
    obtain ⟨id, hid, hopen, hfresh⟩ := huart
    rcases LinkID.isUart_iff.mp hid with rfl | rfl
    · exact .inl ⟨hopen, hfresh⟩
    · exact .inr ⟨hopen, hfresh⟩
  rw [← hmove.isOpen_iff hisOpen hdwell hlive, Px4Arbiter.isOpen_eq_true_iff]
  exact (and_iff_right hnone).symm

/-- Silent Ethernet without a channel, live TELEM2: the next health check has a channel. -/
theorem closed_link_left_silent :
    ∃ r, linkMachine.run (.start 1)
        [.register (some ⟨1, some (.serial "/dev/ttyAMA2")⟩), .noteHeartbeat .telem2 2900000000] =
        some r ∧
      ((r.arb.evaluate 3000000000).1.ch (r.arb.evaluate 3000000000).1.snap.active).isSome =
        true := by
  have h₀ : (LinkRun.start 1).Init := LinkRun.init_start Nat.one_pos
  have hrun : linkMachine.run (.start 1)
      [.register (some ⟨1, some (.serial "/dev/ttyAMA2")⟩), .noteHeartbeat .telem2 2900000000] =
      some _ := rfl
  have hiff := @closed_link_left_iff _ _ _ 3000000000 h₀ hrun (by decide) rfl (by decide)
    ⟨.telem2, rfl, by decide, by decide⟩
  exact ⟨_, hrun, hiff.mpr (by decide)⟩

/-- The broadcast watcher keeps an Ethernet without a channel fresh: TELEM2 is open and live, and
after the health check commands still fail for want of a channel. -/
theorem broadcast_strands_commands :
    ∃ r, linkMachine.run (.start 1)
        [.register (some ⟨1, some (.serial "/dev/ttyAMA2")⟩), .noteHeartbeat .telem2 2900000000,
          .noteHeartbeat .eth 2900000000] = some r ∧
      r.arb.ch r.arb.snap.active = none ∧
      (r.arb.snap.entered : ℤ) + r.arb.loss ≤ (3000000000 : ℕ) ∧ r.arb.LiveUart 3000000000 ∧
      (r.arb.evaluate 3000000000).1.ch (r.arb.evaluate 3000000000).1.snap.active = none ∧
      (r.arb.evaluate 3000000000).1.commandChannel =
        .error "no open channel on PX4 link ethernet" :=
  ⟨_, rfl, rfl, by decide, ⟨.telem2, rfl, by decide, by decide⟩, rfl, rfl⟩

end DroneBridge
