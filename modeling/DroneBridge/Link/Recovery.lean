import DroneBridge.Link.Arbiter

/-!
# Returning to Ethernet

The recovery rule reads a counter, `ethHBSinceLoss`; what it is meant to say is a statement about
the past of the run: enough PX4 heartbeats have arrived on Ethernet since Ethernet was left. The
two are tied together by an invariant over the labels seen so far (`EthHistory`). While a UART is
active the run splits at the health check that left Ethernet, and the counter is at most the
number of Ethernet heartbeats after the split, however many times the two UARTs have been swapped
since.
-/

namespace DroneBridge

/-- A heartbeat noted on Ethernet, by the listener or by the broadcast watcher. -/
def LinkEvent.isEthHeartbeat : LinkEvent → Bool
  | .noteHeartbeat .eth _ => true
  | _ => false

/-- `pre` leads to a state on Ethernet, the health check at `t` leaves Ethernet, and no state along
`post` is on Ethernet again. -/
def LeftEth (r₀ : LinkRun) (pre : List LinkEvent) (t : ℕ) (post : List LinkEvent) : Prop :=
  ∃ r₁ r₂, linkMachine.run r₀ pre = some r₁ ∧ r₁.arb.snap.active = .eth ∧
    linkMachine.step r₁ (.evaluate t) = some r₂ ∧ r₂.arb.snap.active ≠ .eth ∧
    linkMachine.Along (fun r _ ↦ r.arb.snap.active ≠ .eth) r₂ post

/-! ## The counter against the history -/

section Count

variable {s s' : LinkSnap} {now : ℕ} {fresh isOpen : LinkID → Bool} {loss recoverN : ℤ}
  {reason : LinkReason}

theorem LinkMove.count_of_leave (hm : LinkMove s now fresh isOpen loss recoverN s' reason)
    (heth : s.active = .eth) (hne : s'.active ≠ .eth) : s'.ethHBSinceLoss = 0 := by
  rcases hm with h | _ | _ | _ | _ | _ | ⟨_, _, h⟩ | ⟨_, _, h⟩ | ⟨_, _, h⟩ | ⟨_, _, h⟩ | ⟨_, _, h⟩
  all_goals first | rfl | exact absurd heth hne | simp_all

theorem LinkMove.count_of_uart (hm : LinkMove s now fresh isOpen loss recoverN s' reason)
    (hs : s.active ≠ .eth) (hs' : s'.active ≠ .eth) : s'.ethHBSinceLoss = s.ethHBSinceLoss := by
  rcases hm with h | _ | ⟨_, h⟩ | ⟨_, h⟩ | ⟨_, h⟩ | ⟨_, h⟩ | _ | _ | _ | _ | _
  all_goals first | rfl | exact absurd h hs | exact absurd rfl hs'

theorem LinkMove.recovers (hm : LinkMove s now fresh isOpen loss recoverN s' .ethRecovered) :
    s.Recovers fresh isOpen recoverN ∧ s'.active = .eth := by
  cases hm with
  | recovered h => exact ⟨h, rfl⟩

end Count

/-- A heartbeat raises the counter by one if it is one of Ethernet, up to 1000. -/
theorem Px4Arbiter.noteHeartbeat_count {a : Px4Arbiter} (ha : SnapInv a.snap)
    (hne : a.snap.active ≠ .eth) (id : LinkID) (now : ℕ) :
    (a.noteHeartbeat id now).snap.ethHBSinceLoss = min 1000 (a.snap.ethHBSinceLoss +
      if (LinkEvent.noteHeartbeat id now).isEthHeartbeat then 1 else 0) := by
  have hle := ha.count_le
  have hlost := ha.ethLost_of_ne_eth hne
  cases id with
  | eth =>
    by_cases hlt : a.snap.ethHBSinceLoss < 1000
    · have hcount : (a.noteHeartbeat .eth now).snap.ethHBSinceLoss =
          a.snap.ethHBSinceLoss + 1 := by
        simp [noteHeartbeat, hlost, hne, hlt]
      rw [hcount]
      exact (Nat.min_eq_right hlt).symm
    · have hcount : (a.noteHeartbeat .eth now).snap.ethHBSinceLoss = a.snap.ethHBSinceLoss := by
        simp [noteHeartbeat, hlt]
      rw [hcount]
      exact (Nat.le_antisymm hle (Nat.not_lt.mp hlt)).trans (Nat.min_eq_left (by omega)).symm
  | none | telem2 | telem3 =>
    simp [noteHeartbeat, LinkEvent.isEthHeartbeat]
    omega

/-- While no step touches Ethernet, the counter goes with the Ethernet heartbeats, up to 1000. -/
theorem LinkRun.Inv.step_count {r r' : LinkRun} {e : LinkEvent} (h : r.Inv)
    (hstep : linkMachine.step r e = some r') (hr : r.arb.snap.active ≠ .eth)
    (hr' : r'.arb.snap.active ≠ .eth) :
    r'.arb.snap.ethHBSinceLoss =
      min 1000 (r.arb.snap.ethHBSinceLoss + if e.isEthHeartbeat then 1 else 0) := by
  have hkeep : r.arb.snap.ethHBSinceLoss = min 1000 (r.arb.snap.ethHBSinceLoss + 0) :=
    (Nat.min_eq_right h.snap.count_le).symm
  cases e with
  | register c =>
    cases hstep
    rw [Px4Arbiter.register_snap]
    exact hkeep
  | unregister c =>
    cases hstep
    rw [Px4Arbiter.unregister_snap]
    exact hkeep
  | noteHeartbeat id now => cases hstep; exact Px4Arbiter.noteHeartbeat_count h.snap hr id now
  | evaluate now =>
    obtain ⟨-, rfl⟩ := linkMachine_evaluate_eq_some.mp hstep
    have hmove := Px4Arbiter.evaluate_move h.snap.active_ne_none now
    rw [hmove.count_of_uart hr hr']
    exact hkeep
  | configure t2 t3 loss recoverN now =>
    cases hstep
    obtain ⟨t, ht, -⟩ := h.configure_snap t2 t3 loss recoverN now
    dsimp only
    rw [ht]
    exact hkeep

/-- While a UART is active, the run splits where Ethernet was left, and the counter is covered by
the Ethernet heartbeats since. -/
def EthHistory (r₀ : LinkRun) (es : List LinkEvent) (r : LinkRun) : Prop :=
  r.arb.snap.active ≠ .eth → ∃ pre t post, es = pre ++ .evaluate t :: post ∧
    LeftEth r₀ pre t post ∧ r.arb.snap.ethHBSinceLoss ≤ post.countP LinkEvent.isEthHeartbeat

theorem ethHistory_of_run {r₀ r : LinkRun} {es : List LinkEvent} (h₀ : r₀.Init)
    (hrun : linkMachine.run r₀ es = some r) : EthHistory r₀ es r := by
  refine Machine.history_induction (fun hne ↦ absurd h₀.active hne) ?_ hrun
  intro es r e r' hrun ih hstep hne'
  have hinv := h₀.inv_of_run hrun
  by_cases heth : r.arb.snap.active = .eth
  · -- The step leaves Ethernet, so it is a health check, and the split is right here.
    rcases hinv.step_gen hstep with ⟨-, ⟨now, rfl⟩, -⟩ | ⟨hact, -⟩
    · refine ⟨es, now, [], rfl, ⟨r, r', hrun, heth, hstep, hne', trivial⟩, ?_⟩
      obtain ⟨-, rfl⟩ := linkMachine_evaluate_eq_some.mp hstep
      have hmove := Px4Arbiter.evaluate_move hinv.snap.active_ne_none now
      rw [hmove.count_of_leave heth hne']
      exact Nat.zero_le _
    · exact absurd (hact.trans heth) hne'
  · obtain ⟨pre, t, post, rfl, ⟨r₁, r₂, hpre, heth₁, hleave, hne₂, halong⟩, hcount⟩ := ih heth
    have hpost : linkMachine.run r₂ post = some r := by
      obtain ⟨m, hm, hcons⟩ := Machine.run_append_eq_some.mp hrun
      rw [hpre, Option.some.injEq] at hm
      subst hm
      obtain ⟨n, hn, hpost⟩ := Machine.run_cons_eq_some.mp hcons
      rw [hleave, Option.some.injEq] at hn
      exact hn ▸ hpost
    refine ⟨pre, t, post ++ [e], by simp, ⟨r₁, r₂, hpre, heth₁, hleave, hne₂, ?_⟩, ?_⟩
    · rw [Machine.along_append hpost]
      exact ⟨halong, heth, fun _ _ ↦ trivial⟩
    · have hstepCount := hinv.step_count hstep heth hne'
      rw [List.countP_append, List.countP_singleton]
      omega

/-! ## The latest heartbeat -/

/-- `h` is the time of the latest Ethernet heartbeat of the run. -/
def LatestEthHB (es : List LinkEvent) (h : ℕ) : Prop :=
  ∃ pre post, es = pre ++ .noteHeartbeat .eth h :: post ∧
    ∀ e ∈ post, e.isEthHeartbeat = false

/-- A step that is not an Ethernet heartbeat leaves the recorded time alone. -/
theorem lastHB_eth_of_step {r r' : LinkRun} {e : LinkEvent}
    (hstep : linkMachine.step r e = some r') (he : e.isEthHeartbeat = false) :
    r'.arb.lastHB .eth = r.arb.lastHB .eth := by
  cases e with
  | register c => cases hstep; rw [Px4Arbiter.register]; dsimp only; split <;> rfl
  | unregister c => cases hstep; cases c <;> rfl
  | noteHeartbeat id now =>
    cases hstep
    rw [Px4Arbiter.noteHeartbeat]
    cases id with
    | eth => simp [LinkEvent.isEthHeartbeat] at he
    | none | telem2 | telem3 => rfl
  | evaluate now =>
    obtain ⟨-, rfl⟩ := linkMachine_evaluate_eq_some.mp hstep
    rfl
  | configure t2 t3 loss recoverN now => cases hstep; rfl

/-- Once an Ethernet heartbeat was noted, the recorded time is that of the latest one. -/
theorem latestEthHB_of_run {r₀ r : LinkRun} {es : List LinkEvent}
    (hrun : linkMachine.run r₀ es = some r) (hex : ∃ e ∈ es, e.isEthHeartbeat = true) :
    LatestEthHB es (r.arb.lastHB .eth) := by
  revert hex
  refine Machine.history_induction (I := fun es r ↦ (∃ e ∈ es, e.isEthHeartbeat = true) →
    LatestEthHB es (r.arb.lastHB .eth)) (by simp) ?_ hrun
  intro es r e r' _ ih hstep hex
  by_cases he : e.isEthHeartbeat = true
  · obtain ⟨id, now, rfl, rfl⟩ : ∃ id now, e = .noteHeartbeat id now ∧ id = .eth := by
      cases e with
      | noteHeartbeat id now => cases id <;> simp_all [LinkEvent.isEthHeartbeat]
      | _ => simp [LinkEvent.isEthHeartbeat] at he
    cases hstep
    exact ⟨es, [], rfl, by simp⟩
  · have he' : e.isEthHeartbeat = false := eq_false_of_ne_true he
    obtain ⟨f, hf, hfe⟩ := hex
    have hold : ∃ e ∈ es, e.isEthHeartbeat = true := by
      rcases List.mem_append.mp hf with hf | hf
      · exact ⟨f, hf, hfe⟩
      · exact absurd ((List.mem_singleton.mp hf) ▸ hfe) he
    obtain ⟨pre, post, rfl, hpost⟩ := ih hold
    rw [lastHB_eth_of_step hstep he']
    refine ⟨pre, post ++ [e], by simp, fun f hf ↦ ?_⟩
    rcases List.mem_append.mp hf with hf | hf
    · exact hpost f hf
    · exact List.mem_singleton.mp hf ▸ he'

/-! ## Recovery -/

theorem le_recoverNOrDefault (n : ℤ) : n ≤ recoverNOrDefault n ∧ 1 ≤ recoverNOrDefault n := by
  rw [recoverNOrDefault]
  split <;> omega

/-- **A return to Ethernet is justified.** At least `recoverN` PX4 heartbeats were noted on Ethernet
since it was left, the latest is less than the loss timeout old, and the channel is registered. -/
theorem eth_recovered_justified {r₀ r r' : LinkRun} {es : List LinkEvent} {now : ℕ}
    (h₀ : r₀.Init) (hrun : linkMachine.run r₀ es = some r)
    (hstep : linkMachine.step r (.evaluate now) = some r')
    (hreason : (r.arb.evaluate now).2 = .ethRecovered) :
    r'.arb.snap.active = .eth ∧
    (∃ pre t post, es = pre ++ .evaluate t :: post ∧ LeftEth r₀ pre t post ∧
      r.arb.recoverN ≤ post.countP LinkEvent.isEthHeartbeat) ∧
    (∃ h, LatestEthHB es h ∧ (now : ℤ) - h < r.arb.loss) ∧
    (r.arb.ch .eth).isSome = true := by
  have hinv := h₀.inv_of_run hrun
  have hmove := Px4Arbiter.evaluate_move hinv.snap.active_ne_none now
  rw [hreason] at hmove
  obtain ⟨⟨hne, -, hcount, hfresh, hopen⟩, heth⟩ := hmove.recovers
  obtain ⟨-, rfl⟩ := linkMachine_evaluate_eq_some.mp hstep
  obtain ⟨pre, t, post, rfl, hleft, hle⟩ := ethHistory_of_run h₀ hrun hne
  have hn := le_recoverNOrDefault r.arb.recoverN
  refine ⟨heth, ⟨pre, t, post, rfl, hleft, by omega⟩, ⟨r.arb.lastHB .eth, ?_, ?_⟩, ?_⟩
  · -- The count is positive, so a heartbeat did arrive.
    refine latestEthHB_of_run hrun ?_
    have hpos : 0 < post.countP LinkEvent.isEthHeartbeat := by omega
    obtain ⟨e, he, hhb⟩ := List.countP_pos_iff.mp hpos
    exact ⟨e, by simp [he], hhb⟩
  · have hlt := (Px4Arbiter.fresh_eq_true_iff.mp hfresh).2.2
    omega
  · exact (Px4Arbiter.isOpen_eq_true_iff.mp hopen).2

/-- A failover to TELEM2 at three seconds, two heartbeats on Ethernet, and the return to it. -/
theorem eth_recovered_justified_failover :
    ∃ r r', linkMachine.run (.start 1)
        [.register (some ⟨0, some .custom⟩), .register (some ⟨1, some (.serial "/dev/ttyAMA2")⟩),
          .evaluate 3000000000, .noteHeartbeat .eth 3200000000,
          .noteHeartbeat .eth 3400000000] = some r ∧
      linkMachine.step r (.evaluate 3500000000) = some r' ∧ r.arb.snap.active = .telem2 ∧
      r'.arb.snap.active = .eth ∧ (r.arb.ch .eth).isSome = true := by
  have h₀ : (LinkRun.start 1).Init := LinkRun.init_start Nat.one_pos
  have hrun : linkMachine.run (.start 1)
      [.register (some ⟨0, some .custom⟩), .register (some ⟨1, some (.serial "/dev/ttyAMA2")⟩),
        .evaluate 3000000000, .noteHeartbeat .eth 3200000000,
        .noteHeartbeat .eth 3400000000] = some _ := rfl
  have hrec := @eth_recovered_justified _ _ _ _ 3500000000 h₀ hrun rfl (by decide)
  exact ⟨_, _, hrun, rfl, by decide, hrec.1, hrec.2.2.2⟩

end DroneBridge
