import DroneBridge.Link.Recovery

/-!
# When a return to Ethernet has to come

A return to Ethernet needs enough heartbeats on it since it was left, and the number is configured.
The arbiter does not keep that number but a counter that stops at 1000. As a threshold test the
counter is as good as the number up to there and no further: the invariant says that the counter is
the number of heartbeats since Ethernet was left, or 1000 if that is smaller (`count_of_leftEth`).
So with more than 1000 configured Ethernet never comes back, whatever arrives on it.
-/

namespace DroneBridge

section Move

variable {s s' : LinkSnap} {now : ℕ} {fresh isOpen : LinkID → Bool} {loss recoverN : ℤ}
  {reason : LinkReason}

/-- From a UART only a recovery leads to Ethernet, and a recovery that is due is not put off. -/
theorem LinkMove.active_eth_iff (hm : LinkMove s now fresh isOpen loss recoverN s' reason)
    (hs : s.active ≠ .eth) : s'.active = .eth ↔ s.Recovers fresh isOpen recoverN := by
  rcases hm with h | ⟨h, -⟩ | ⟨-, h⟩ | ⟨-, h⟩ | ⟨-, h⟩ | ⟨-, h⟩ | h | h | h | h | h
  case recovered => exact iff_of_true rfl h
  case ethKept | ethStranded | ethLost | ethLostTelem2Absent => exact absurd h hs
  case held | telem2Kept | telem2Stranded | telem3Kept => exact iff_of_false hs h
  case telem2Lost | telem2Restored => exact iff_of_false nofun h

end Move

/-- Along a run that stays off Ethernet the counter counts heartbeats up to 1000. -/
theorem LinkRun.Inv.count_of_run {r r' : LinkRun} {es : List LinkEvent} (h : r.Inv)
    (hrun : linkMachine.run r es = some r')
    (halong : linkMachine.Along (fun r _ ↦ r.arb.snap.active ≠ .eth) r es)
    (hne : r'.arb.snap.active ≠ .eth) :
    r'.arb.snap.ethHBSinceLoss =
      min 1000 (r.arb.snap.ethHBSinceLoss + es.countP LinkEvent.isEthHeartbeat) := by
  induction es generalizing r with
  | nil =>
    obtain rfl := Option.some.inj hrun
    exact (Nat.min_eq_right h.snap.count_le).symm
  | cons e es ih =>
    obtain ⟨m, hm, hes⟩ := Machine.run_cons_eq_some.mp hrun
    obtain ⟨hr, halong⟩ := (Machine.along_cons hm).mp halong
    have hmne : m.arb.snap.active ≠ .eth := by
      cases es with
      | nil =>
        obtain rfl := Option.some.inj hes
        exact hne
      | cons f fs => exact halong.1
    rw [ih (h.step_inv hm) hes halong, h.step_count hm hr hmne, List.countP_cons]
    omega

/-- The counter against the heartbeats since Ethernet was left. -/
theorem count_of_leftEth {r₀ r : LinkRun} {pre post : List LinkEvent} {t : ℕ} (h₀ : r₀.Init)
    (hrun : linkMachine.run r₀ (pre ++ .evaluate t :: post) = some r)
    (hleft : LeftEth r₀ pre t post) (hne : r.arb.snap.active ≠ .eth) :
    r.arb.snap.ethHBSinceLoss = min 1000 (post.countP LinkEvent.isEthHeartbeat) := by
  obtain ⟨r₁, r₂, hpre, heth, hleave, hne₂, halong⟩ := hleft
  obtain ⟨m, hm, hcons⟩ := Machine.run_append_eq_some.mp hrun
  obtain rfl := Option.some.inj (hpre.symm.trans hm)
  obtain ⟨n, hn, hpost⟩ := Machine.run_cons_eq_some.mp hcons
  obtain rfl := Option.some.inj (hleave.symm.trans hn)
  have hinv := h₀.inv_of_run hpre
  have hzero : r₂.arb.snap.ethHBSinceLoss = 0 := by
    obtain ⟨-, rfl⟩ := linkMachine_evaluate_eq_some.mp hleave
    exact (Px4Arbiter.evaluate_move hinv.snap.active_ne_none t).count_of_leave heth hne₂
  rw [(hinv.step_inv hleave).count_of_run hpost halong hne, hzero, Nat.zero_add]

theorem lastHB_eq_of_latest {r₀ r : LinkRun} {es : List LinkEvent} {h : ℕ}
    (hrun : linkMachine.run r₀ es = some r) (hlatest : LatestEthHB es h) :
    r.arb.lastHB .eth = h := by
  obtain ⟨pre, post, rfl, hpost⟩ := hlatest
  obtain ⟨m, -, hcons⟩ := Machine.run_append_eq_some.mp hrun
  obtain ⟨n, hn, hes⟩ := Machine.run_cons_eq_some.mp hcons
  have hnote : n.arb.lastHB .eth = h := by
    cases hn
    rfl
  refine Machine.invariant_along (I := fun r ↦ r.arb.lastHB .eth = h)
    (fun _ _ _ hI he hstep ↦ ?_) hnote (Machine.along_of_forall hpost n) hes
  exact (lastHB_eth_of_step hstep he).trans hI

/-- **The return to Ethernet.** With `recoverN` heartbeats noted on Ethernet, the latest fresh, and
the channel registered, the next health check makes Ethernet active exactly when `recoverN` is at
most 1000. -/
theorem eth_returns_iff {r₀ r r' : LinkRun} {pre post : List LinkEvent} {t now h : ℕ}
    (h₀ : r₀.Init) (hrun : linkMachine.run r₀ (pre ++ .evaluate t :: post) = some r)
    (hleft : LeftEth r₀ pre t post) (huart : r.arb.snap.active.isUart = true)
    (hN : 1 ≤ r.arb.recoverN) (hcount : r.arb.recoverN ≤ post.countP LinkEvent.isEthHeartbeat)
    (hlatest : LatestEthHB (pre ++ .evaluate t :: post) h) (hreal : 0 < h)
    (hyoung : (now : ℤ) - h < r.arb.loss) (hopen : (r.arb.ch .eth).isSome = true)
    (hstep : linkMachine.step r (.evaluate now) = some r') :
    r'.arb.snap.active = .eth ↔ r.arb.recoverN ≤ 1000 := by
  have hinv := h₀.inv_of_run hrun
  have hne : r.arb.snap.active ≠ .eth := by
    rcases LinkID.isUart_iff.mp huart with hact | hact <;> rw [hact] <;> exact nofun
  have hmove := Px4Arbiter.evaluate_move hinv.snap.active_ne_none now
  obtain ⟨-, rfl⟩ := linkMachine_evaluate_eq_some.mp hstep
  have hfresh : r.arb.fresh now .eth = true := by
    rw [Px4Arbiter.fresh_eq_true_iff, lastHB_eq_of_latest hrun hlatest]
    exact ⟨nofun, hreal, by omega⟩
  have hisOpen : r.arb.isOpen .eth = true := Px4Arbiter.isOpen_eq_true_iff.mpr ⟨nofun, hopen⟩
  have hdefault : recoverNOrDefault r.arb.recoverN = r.arb.recoverN := if_neg (by omega)
  rw [hmove.active_eth_iff hne, hdefault]
  -- Of the five conditions of a recovery, all but the threshold are given.
  have hthreshold : r.arb.snap.Recovers (r.arb.fresh now) r.arb.isOpen r.arb.recoverN ↔
      r.arb.recoverN ≤ r.arb.snap.ethHBSinceLoss := by
    constructor
    · rintro ⟨-, -, hle, -⟩
      exact hle
    · intro hle
      exact ⟨hne, hinv.snap.ethLost_of_ne_eth hne, hle, hfresh, hisOpen⟩
  rw [hthreshold, count_of_leftEth h₀ hrun hleft hne]
  omega

/-- Channels on Ethernet and TELEM2. -/
def twoChannels : List LinkEvent :=
  [.register (some ⟨0, some .custom⟩), .register (some ⟨1, some (.serial "/dev/ttyAMA2")⟩)]

/-- Two heartbeats after a failover to TELEM2, with the default of two. -/
theorem eth_returns_failover :
    ∃ r r', linkMachine.run (.start 1) (twoChannels ++ .evaluate 3000000000 ::
          [.noteHeartbeat .eth 3200000000, .noteHeartbeat .eth 3400000000]) = some r ∧
      linkMachine.step r (.evaluate 3500000000) = some r' ∧ r.arb.snap.active = .telem2 ∧
      r'.arb.snap.active = .eth := by
  have h₀ : (LinkRun.start 1).Init := LinkRun.init_start Nat.one_pos
  have hrun : linkMachine.run (.start 1) (twoChannels ++ .evaluate 3000000000 ::
      [.noteHeartbeat .eth 3200000000, .noteHeartbeat .eth 3400000000]) = some _ := rfl
  have hleft : LeftEth (.start 1) twoChannels 3000000000
      [.noteHeartbeat .eth 3200000000, .noteHeartbeat .eth 3400000000] :=
    ⟨_, _, rfl, rfl, rfl, by decide, by decide⟩
  have hlatest : LatestEthHB (twoChannels ++ .evaluate 3000000000 ::
      [.noteHeartbeat .eth 3200000000, .noteHeartbeat .eth 3400000000]) 3400000000 :=
    ⟨twoChannels ++ [.evaluate 3000000000, .noteHeartbeat .eth 3200000000], [], rfl, nofun⟩
  have hreturn := @eth_returns_iff _ _ _ _ _ _ 3500000000 3400000000 h₀ hrun hleft (by decide)
    (by decide) (by decide) hlatest (by decide) (by decide) (by decide) rfl
  exact ⟨_, _, hrun, rfl, by decide, hreturn.mpr (by decide)⟩

/-- Heartbeats on Ethernet can be noted at any time; they change neither the link nor the channels
nor what is configured. -/
theorem run_ethHeartbeats (t n : ℕ) {r : LinkRun} (hne : r.arb.snap.active ≠ .eth) :
    ∃ r', linkMachine.run r (List.replicate n (.noteHeartbeat .eth t)) = some r' ∧
      linkMachine.Along (fun r _ ↦ r.arb.snap.active ≠ .eth) r
        (List.replicate n (.noteHeartbeat .eth t)) ∧
      r'.arb.snap.active = r.arb.snap.active ∧ r'.arb.ch = r.arb.ch ∧
      r'.arb.recoverN = r.arb.recoverN ∧ r'.arb.loss = r.arb.loss ∧ r'.clock = r.clock := by
  induction n generalizing r with
  | zero => exact ⟨r, rfl, trivial, rfl, rfl, rfl, rfl, rfl⟩
  | succ n ih =>
    have hstep : linkMachine.step r (.noteHeartbeat .eth t) =
      some { r with arb := r.arb.noteHeartbeat .eth t } := rfl
    obtain ⟨r', hrun, halong, hact, hch, hN, hloss, hclock⟩ :=
      ih (r := { r with arb := r.arb.noteHeartbeat .eth t }) (by simpa using hne)
    rw [Px4Arbiter.noteHeartbeat_active] at hact
    refine ⟨r', ?_, ?_, hact, hch, hN, hloss, hclock⟩
    · exact Machine.run_cons_eq_some.mpr ⟨_, hstep, hrun⟩
    · exact (Machine.along_cons hstep).mpr ⟨hne, halong⟩

/-- The start of a run with `eth_recover_heartbeats: 1001`. -/
def recover1001 : List LinkEvent :=
  .configure "/dev/ttyAMA2" "/dev/ttyAMA3" (2 * Clock.second) 1001 1 :: twoChannels

def heartbeats1001 : List LinkEvent := List.replicate 1001 (.noteHeartbeat .eth 3200000000)

/-- With `eth_recover_heartbeats: 1001` the heartbeats that it asks for have arrived, the last one
300 ms ago, Ethernet has a channel, and commands stay on TELEM2. -/
theorem eth_never_returns :
    ∃ r r', linkMachine.run (.start 1) (recover1001 ++ .evaluate 3000000000 :: heartbeats1001) =
        some r ∧
      LeftEth (.start 1) recover1001 3000000000 heartbeats1001 ∧ r.arb.snap.active = .telem2 ∧
      r.arb.recoverN = 1001 ∧ heartbeats1001.countP LinkEvent.isEthHeartbeat = 1001 ∧
      LatestEthHB (recover1001 ++ .evaluate 3000000000 :: heartbeats1001) 3200000000 ∧
      (3500000000 : ℤ) - 3200000000 < r.arb.loss ∧ (r.arb.ch .eth).isSome = true ∧
      linkMachine.step r (.evaluate 3500000000) = some r' ∧ r'.arb.snap.active ≠ .eth := by
  have h₀ : (LinkRun.start 1).Init := LinkRun.init_start Nat.one_pos
  obtain ⟨r₁, hpre, heth⟩ : ∃ r₁, linkMachine.run (.start 1) recover1001 = some r₁ ∧
      r₁.arb.snap.active = .eth := ⟨_, rfl, rfl⟩
  obtain ⟨r₂, hleave, hact₂, hN₂, hloss₂, hopen₂, hclock₂⟩ :
      ∃ r₂, linkMachine.step r₁ (.evaluate 3000000000) = some r₂ ∧
        r₂.arb.snap.active = .telem2 ∧ r₂.arb.recoverN = 1001 ∧
        r₂.arb.loss = 2 * Clock.second ∧ (r₂.arb.ch .eth).isSome = true ∧
        r₂.clock = 3000000000 := by
    cases hpre
    exact ⟨_, rfl, rfl, rfl, rfl, rfl, rfl⟩
  have hne₂ : r₂.arb.snap.active ≠ .eth := by rw [hact₂]; exact nofun
  obtain ⟨r, hpost, halong, hact, hch, hN, hloss, hclock⟩ := run_ethHeartbeats 3200000000 1001 hne₂
  have hleft : LeftEth (.start 1) recover1001 3000000000 heartbeats1001 :=
    ⟨r₁, r₂, hpre, heth, hleave, hne₂, halong⟩
  have hrun : linkMachine.run (.start 1)
      (recover1001 ++ .evaluate 3000000000 :: heartbeats1001) = some r :=
    Machine.run_append_eq_some.mpr ⟨r₁, hpre, Machine.run_cons_eq_some.mpr ⟨r₂, hleave, hpost⟩⟩
  have hne : r.arb.snap.active ≠ .eth := by rw [hact]; exact hne₂
  have hcountP : heartbeats1001.countP LinkEvent.isEthHeartbeat = 1001 :=
    List.countP_replicate.trans (if_pos rfl)
  have hcount := count_of_leftEth h₀ hrun hleft hne
  rw [hcountP] at hcount
  rw [hclock₂] at hclock
  rw [hN₂] at hN
  have hmove := Px4Arbiter.evaluate_move (h₀.inv_of_run hrun).snap.active_ne_none 3500000000
  refine ⟨r, _, hrun, hleft, hact.trans hact₂, hN, hcountP, ?_, ?_, ?_,
    linkMachine_evaluate_eq_some.mpr ⟨by omega, rfl⟩, ?_⟩
  · exact ⟨recover1001 ++ .evaluate 3000000000 :: List.replicate 1000 _, [],
      by rw [heartbeats1001, List.replicate_succ', List.append_assoc, List.cons_append], nofun⟩
  · rw [hloss, hloss₂]
    decide
  · rw [hch]
    exact hopen₂
  · intro hback
    obtain ⟨-, -, hle, -⟩ := (hmove.active_eth_iff hne).mp hback
    rw [hN, hcount] at hle
    exact absurd hle (by decide)

end DroneBridge
