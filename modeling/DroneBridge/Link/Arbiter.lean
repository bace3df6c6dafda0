import DroneBridge.Lib.Machine
import DroneBridge.Link.Step

/-!
# The PX4 link arbiter

`Px4Arbiter` is the shared record of `forwarder/px4_link.go`. Four entry points write it from
different goroutines, each in one critical section under `mu`: channels are registered and
unregistered as the listener opens and closes them, heartbeats are noted by the listener and by
the Ethernet broadcast watcher, and `evaluate` takes a decision on every health tick. A run is any
interleaving of these, with `evaluate` at times that never go back.

The safety invariant `SnapInv` couples four fields of the snapshot. It is preserved by every exit
of a decision (`LinkMove.snapInv`), hence by every step (`step_inv`) and along every run.
-/

namespace DroneBridge

/-! ## Channels -/

/-- The endpoint configurations the arbiter tells apart. -/
inductive EndpointConf
  | serial (device : String)
  | custom
  | other
  deriving DecidableEq, Repr

/-- A channel of the MAVLink node: its identity and the configuration of its endpoint, if any. -/
structure Channel where
  /-- The identity of the channel, the source's pointer. -/
  ptr : ℕ
  /-- The configuration of the channel's endpoint; `none` when it has no endpoint. -/
  endpoint : Option EndpointConf
  deriving DecidableEq, Repr

/-! ## The shared record -/

structure Px4Arbiter where
  telem2Dev : String
  telem3Dev : String
  /-- Heartbeat silence after which a link is given up. -/
  loss : ℤ
  /-- Heartbeats on Ethernet that bring commands back to it. -/
  recoverN : ℤ
  ch : LinkID → Option Channel
  /-- The latest heartbeat of each link; zero for never. -/
  lastHB : LinkID → ℕ
  snap : LinkSnap
  /-- Counts link changes. The source's `uint64`, which 2⁶⁴ changes would be needed to wrap. -/
  gen : ℕ

namespace Px4Arbiter

variable (a : Px4Arbiter)

def identify : Option Channel → LinkID
  | none => .none
  | some c =>
    match c.endpoint with
    | none => .none
    | some (.serial device) =>
      if device = a.telem2Dev then .telem2 else if device = a.telem3Dev then .telem3 else .none
    | some .custom => .eth
    | some .other => .none

def register (c : Option Channel) : Px4Arbiter :=
  if a.identify c = .none then a
  else { a with ch := fun id ↦ if id = a.identify c then c else a.ch id }

def unregister : Option Channel → Px4Arbiter
  | none => a
  | some c => { a with ch := fun id ↦ if a.ch id = some c then none else a.ch id }

def noteHeartbeat (id : LinkID) (now : ℕ) : Px4Arbiter :=
  if id = .none then a
  else
    { a with
      lastHB := fun i ↦ if i = id then now else a.lastHB i
      snap := if id = .eth ∧ a.snap.ethLost ∧ a.snap.active ≠ .eth ∧ a.snap.ethHBSinceLoss < 1000
        then { a.snap with ethHBSinceLoss := a.snap.ethHBSinceLoss + 1 } else a.snap }

/-- A real link with a registered channel. -/
def isOpen (id : LinkID) : Bool := id ≠ .none && (a.ch id).isSome

/-- A real link whose latest heartbeat is less than the loss timeout old. -/
def fresh (now : ℕ) (id : LinkID) : Bool :=
  id ≠ .none && !Clock.isZero (a.lastHB id) && Clock.sub now (a.lastHB id) < a.loss

/-- One health check: the decision is stored, and a change of link is counted. -/
def evaluate (now : ℕ) : Px4Arbiter × LinkReason :=
  let next := stepLink a.snap now (a.fresh now) a.isOpen a.loss a.recoverN
  ({ a with
      snap := next.1
      gen := if next.2 ≠ .none ∧ next.1.active ≠ a.snap.active then a.gen + 1 else a.gen },
    next.2)

/-- `configurePX4Links`: new parameters, and the start of the Ethernet window if it has not started
yet. -/
def configure (telem2 telem3 : String) (loss recoverN : ℤ) (now : ℕ) : Px4Arbiter :=
  { a with
    telem2Dev := telem2, telem3Dev := telem3, loss := loss, recoverN := recoverN
    snap := if Clock.isZero a.snap.entered then { a.snap with active := .eth, entered := now }
      else a.snap }

end Px4Arbiter

/-! ## Runs -/

inductive LinkEvent
  | register (c : Option Channel)
  | unregister (c : Option Channel)
  | noteHeartbeat (id : LinkID) (now : ℕ)
  | evaluate (now : ℕ)
  | configure (telem2 telem3 : String) (loss recoverN : ℤ) (now : ℕ)
  deriving DecidableEq, Repr

/-- The arbiter together with the time of the last health check. -/
structure LinkRun where
  arb : Px4Arbiter
  clock : ℕ

/-- The arbiter as a machine; a health check is never earlier than the one before. -/
def linkMachine : Machine LinkRun LinkEvent where
  step r
    | .register c => some { r with arb := r.arb.register c }
    | .unregister c => some { r with arb := r.arb.unregister c }
    | .noteHeartbeat id now => some { r with arb := r.arb.noteHeartbeat id now }
    | .evaluate now =>
      if r.clock ≤ now then some { arb := (r.arb.evaluate now).1, clock := now } else none
    | .configure t2 t3 loss recoverN now =>
      some { r with arb := r.arb.configure t2 t3 loss recoverN now }

/-- Where a run starts: on Ethernet, which is not lost, after the zero instant. -/
structure LinkRun.Init (r : LinkRun) : Prop where
  active : r.arb.snap.active = .eth
  ethLost : r.arb.snap.ethLost = false
  ethHBSinceLoss : r.arb.snap.ethHBSinceLoss = 0
  holdUntil : r.arb.snap.holdUntil = 0
  clock : 0 < r.clock

/-- The arbiter as the supervisor starts it at time `now`, with the default parameters. -/
def Px4Arbiter.start (now : ℕ) : Px4Arbiter where
  telem2Dev := "/dev/ttyAMA2"
  telem3Dev := "/dev/ttyAMA3"
  loss := 2 * Clock.second
  recoverN := 2
  ch := fun _ ↦ none
  lastHB := fun _ ↦ 0
  snap := { active := .eth, entered := now, holdUntil := 0, ethLost := false, ethHBSinceLoss := 0 }
  gen := 0

def LinkRun.start (now : ℕ) : LinkRun := { arb := .start now, clock := now }

theorem LinkRun.init_start {now : ℕ} (hnow : 0 < now) : (LinkRun.start now).Init :=
  ⟨rfl, rfl, rfl, rfl, hnow⟩

/-! ## The snapshot invariant -/

/-- What holds of the snapshot at all times. -/
structure SnapInv (s : LinkSnap) : Prop where
  active_ne_none : s.active ≠ .none
  ethLost_of_ne_eth : s.active ≠ .eth → s.ethLost = true
  count_of_eth : s.active = .eth → s.ethHBSinceLoss = 0
  count_le : s.ethHBSinceLoss ≤ 1000

section Move

variable {s s' : LinkSnap} {now : ℕ} {fresh isOpen : LinkID → Bool} {loss recoverN : ℤ}
  {r : LinkReason}

theorem LinkMove.snapInv (hm : LinkMove s now fresh isOpen loss recoverN s' r) (h : SnapInv s) :
    SnapInv s' := by
  cases hm with
  | recovered => exact ⟨by simp, by simp, by simp, by simp⟩
  | held | ethKept | telem2Kept | telem2Stranded | telem3Kept => exact h
  | ethStranded =>
    exact ⟨h.active_ne_none, fun _ ↦ rfl, fun _ ↦ rfl, by simp [LinkSnap.loseEth]⟩
  | ethLost | ethLostTelem2Absent =>
    exact ⟨by simp [LinkSnap.enterUart], fun _ ↦ rfl, fun _ ↦ rfl,
      by simp [LinkSnap.enterUart, LinkSnap.loseEth]⟩
  | telem2Lost _ _ hact | telem2Restored _ _ hact =>
    have hlost : s.ethLost = true := h.ethLost_of_ne_eth (by simp [hact])
    exact ⟨by simp [LinkSnap.enterUart], fun _ ↦ hlost, by simp [LinkSnap.enterUart], h.count_le⟩

/-- A decision keeps the link and gives no reason, or changes it, stamps the entry time and gives
one. -/
theorem LinkMove.kept_or_changed (hm : LinkMove s now fresh isOpen loss recoverN s' r) :
    (s'.active = s.active ∧ s'.entered = s.entered ∧ r = .none) ∨
      (s'.active ≠ s.active ∧ s'.entered = now ∧ r ≠ .none) := by
  cases hm with
  | recovered h => exact .inr ⟨h.1.symm, rfl, by simp⟩
  | held | ethKept | ethStranded | telem2Kept | telem2Stranded | telem3Kept =>
    exact .inl ⟨rfl, rfl, rfl⟩
  | ethLost _ hact | ethLostTelem2Absent _ hact =>
    exact .inr ⟨by simp [LinkSnap.enterUart, hact], rfl, by simp⟩
  | telem2Lost _ _ hact | telem2Restored _ _ hact =>
    exact .inr ⟨by simp [LinkSnap.enterUart, hact], rfl, by simp⟩

/-- A decision gives a reason exactly when it changes the link. -/
theorem LinkMove.reason_ne_none_iff (hm : LinkMove s now fresh isOpen loss recoverN s' r) :
    r ≠ .none ↔ s'.active ≠ s.active := by
  rcases hm.kept_or_changed with ⟨hactive, -, hreason⟩ | ⟨hactive, -, hreason⟩
  · simp [hactive, hreason]
  · exact iff_of_true hreason hactive

/-- A decision either leaves the entry time alone or stamps it, and it stamps it exactly when the
link changes. -/
theorem LinkMove.entered (hm : LinkMove s now fresh isOpen loss recoverN s' r) :
    s'.entered = if s'.active = s.active then s.entered else now := by
  rcases hm.kept_or_changed with ⟨hactive, hentered, -⟩ | ⟨hactive, hentered, -⟩
  · rw [if_pos hactive, hentered]
  · rw [if_neg hactive, hentered]

end Move

namespace Px4Arbiter

variable {a : Px4Arbiter}

theorem isOpen_eq_true_iff {id : LinkID} :
    a.isOpen id = true ↔ id ≠ .none ∧ (a.ch id).isSome = true := by
  rw [isOpen, Bool.and_eq_true, decide_eq_true_eq]

theorem fresh_eq_true_iff {now : ℕ} {id : LinkID} :
    a.fresh now id = true ↔
      id ≠ .none ∧ 0 < a.lastHB id ∧ (now : ℤ) < a.lastHB id + a.loss := by
  rw [fresh, Bool.and_eq_true, Bool.and_eq_true, decide_eq_true_eq, decide_eq_true_eq,
    Bool.not_eq_true', Clock.isZero_eq_false_iff, Clock.sub_lt_iff, and_assoc]

theorem evaluate_move (hs : a.snap.active ≠ .none) (now : ℕ) :
    LinkMove a.snap now (a.fresh now) a.isOpen (lossOrDefault a.loss)
      (recoverNOrDefault a.recoverN) (a.evaluate now).1.snap (a.evaluate now).2 :=
  stepLink_move hs now _ _ _ _

theorem evaluate_gen (hs : a.snap.active ≠ .none) (now : ℕ) :
    (a.evaluate now).1.gen =
      if (a.evaluate now).1.snap.active = a.snap.active then a.gen else a.gen + 1 := by
  have hreason := (evaluate_move hs now).reason_ne_none_iff
  by_cases hact : (a.evaluate now).1.snap.active = a.snap.active
  · rw [if_pos hact]
    exact if_neg fun h ↦ h.2 hact
  · rw [if_neg hact]
    exact if_pos ⟨hreason.mpr hact, hact⟩

@[simp] theorem register_snap (c : Option Channel) : (a.register c).snap = a.snap := by
  rw [register]; split <;> rfl

@[simp] theorem register_gen (c : Option Channel) : (a.register c).gen = a.gen := by
  rw [register]; split <;> rfl

@[simp] theorem unregister_snap (c : Option Channel) : (a.unregister c).snap = a.snap := by
  cases c <;> rfl

@[simp] theorem unregister_gen (c : Option Channel) : (a.unregister c).gen = a.gen := by
  cases c <;> rfl

@[simp] theorem noteHeartbeat_gen (id : LinkID) (now : ℕ) :
    (a.noteHeartbeat id now).gen = a.gen := by
  rw [noteHeartbeat]; split <;> rfl

/-- A heartbeat leaves everything in the snapshot but the count alone. -/
theorem noteHeartbeat_snap (id : LinkID) (now : ℕ) :
    ∃ n, (a.noteHeartbeat id now).snap = { a.snap with ethHBSinceLoss := n } := by
  rw [noteHeartbeat]
  split
  · exact ⟨_, rfl⟩
  · dsimp only
    split <;> exact ⟨_, rfl⟩

@[simp] theorem noteHeartbeat_active (id : LinkID) (now : ℕ) :
    (a.noteHeartbeat id now).snap.active = a.snap.active := by
  obtain ⟨n, hn⟩ := a.noteHeartbeat_snap id now
  rw [hn]

theorem noteHeartbeat_snapInv (h : SnapInv a.snap) (id : LinkID) (now : ℕ) :
    SnapInv (a.noteHeartbeat id now).snap := by
  rw [noteHeartbeat]
  split
  · exact h
  · dsimp only
    split
    case isTrue hcond =>
      obtain ⟨-, hlost, hact, hlt⟩ := hcond
      exact ⟨h.active_ne_none, fun _ ↦ hlost, fun heth ↦ absurd heth hact, hlt⟩
    case isFalse => exact h

end Px4Arbiter

theorem linkMachine_evaluate_eq_some {r r' : LinkRun} {now : ℕ} :
    linkMachine.step r (.evaluate now) = some r' ↔
      r.clock ≤ now ∧ r' = { arb := (r.arb.evaluate now).1, clock := now } := by
  rw [@eq_comm _ r']
  simp only [linkMachine, Option.ite_none_right_eq_some, Option.some.injEq]

/-! ## The invariant of a run -/

/-- The snapshot invariant, with what `configure` needs: a link other than Ethernet was entered at
a real time. -/
structure LinkRun.Inv (r : LinkRun) : Prop where
  snap : SnapInv r.arb.snap
  clock : 0 < r.clock
  entered : r.arb.snap.entered = 0 → r.arb.snap.active = .eth

theorem LinkRun.Init.inv {r : LinkRun} (h : r.Init) : r.Inv where
  snap := ⟨by simp [h.active], fun hne ↦ absurd h.active hne, fun _ ↦ h.ethHBSinceLoss,
    by simp [h.ethHBSinceLoss]⟩
  clock := h.clock
  entered := fun _ ↦ h.active

theorem LinkRun.Inv.configure_snap {r : LinkRun} (h : r.Inv) (t2 t3 : String)
    (loss recoverN : ℤ) (now : ℕ) :
    ∃ t, (r.arb.configure t2 t3 loss recoverN now).snap = { r.arb.snap with entered := t } ∧
      (r.arb.snap.entered ≠ 0 → t = r.arb.snap.entered) := by
  rw [Px4Arbiter.configure]
  dsimp only
  split
  case isTrue hzero =>
    rw [Clock.isZero, beq_iff_eq] at hzero
    exact ⟨now, by rw [h.entered hzero], fun hne ↦ absurd hzero hne⟩
  case isFalse => exact ⟨_, rfl, fun _ ↦ rfl⟩

/-- What one step does to the link and to the counter of link changes. -/
theorem LinkRun.Inv.step_gen {r r' : LinkRun} {e : LinkEvent} (h : r.Inv)
    (hstep : linkMachine.step r e = some r') :
    (r'.arb.snap.active ≠ r.arb.snap.active ∧ (∃ now, e = .evaluate now) ∧
      r'.arb.gen = r.arb.gen + 1) ∨
    (r'.arb.snap.active = r.arb.snap.active ∧ r'.arb.gen = r.arb.gen) := by
  cases e with
  | register c => cases hstep; exact .inr ⟨by simp, by simp⟩
  | unregister c => cases hstep; exact .inr ⟨by simp, by simp⟩
  | noteHeartbeat id now => cases hstep; exact .inr ⟨by simp, by simp⟩
  | evaluate now =>
    obtain ⟨-, rfl⟩ := linkMachine_evaluate_eq_some.mp hstep
    have hgen := Px4Arbiter.evaluate_gen h.snap.active_ne_none now
    by_cases hact : (r.arb.evaluate now).1.snap.active = r.arb.snap.active
    · exact .inr ⟨hact, by rw [hgen, if_pos hact]⟩
    · exact .inl ⟨hact, ⟨now, rfl⟩, by rw [hgen, if_neg hact]⟩
  | configure t2 t3 loss recoverN now =>
    cases hstep
    obtain ⟨t, ht, -⟩ := h.configure_snap t2 t3 loss recoverN now
    exact .inr ⟨by rw [ht], rfl⟩

theorem LinkRun.Inv.step_inv {r r' : LinkRun} {e : LinkEvent} (h : r.Inv)
    (hstep : linkMachine.step r e = some r') : r'.Inv := by
  cases e with
  | register c =>
    cases hstep
    exact ⟨by simpa using h.snap, h.clock, by simpa using h.entered⟩
  | unregister c =>
    cases hstep
    exact ⟨by simpa using h.snap, h.clock, by simpa using h.entered⟩
  | noteHeartbeat id now =>
    cases hstep
    obtain ⟨n, hn⟩ := r.arb.noteHeartbeat_snap id now
    exact ⟨Px4Arbiter.noteHeartbeat_snapInv h.snap id now, h.clock,
      by dsimp only; rw [hn]; exact h.entered⟩
  | evaluate now =>
    obtain ⟨hclock, rfl⟩ := linkMachine_evaluate_eq_some.mp hstep
    have hmove := Px4Arbiter.evaluate_move h.snap.active_ne_none now
    have hnow : 0 < now := Nat.lt_of_lt_of_le h.clock hclock
    refine ⟨hmove.snapInv h.snap, hnow, fun hzero ↦ ?_⟩
    -- A changed link was entered at `now`, which is not the zero instant.
    dsimp only at hzero ⊢
    rw [hmove.entered] at hzero
    split at hzero
    case isTrue hact => rw [hact]; exact h.entered hzero
    case isFalse => omega
  | configure t2 t3 loss recoverN now =>
    cases hstep
    obtain ⟨t, ht, hkeep⟩ := h.configure_snap t2 t3 loss recoverN now
    refine ⟨?_, h.clock, fun hzero ↦ ?_⟩
    · dsimp only
      rw [ht]
      exact ⟨h.snap.active_ne_none, h.snap.ethLost_of_ne_eth, h.snap.count_of_eth,
        h.snap.count_le⟩
    · dsimp only at hzero ⊢
      rw [ht] at hzero ⊢
      by_cases hne : r.arb.snap.entered = 0
      · exact h.entered hne
      · exact absurd ((hkeep hne).symm.trans hzero) hne

theorem LinkRun.Init.inv_of_run {r₀ r : LinkRun} {es : List LinkEvent} (h₀ : r₀.Init)
    (hrun : linkMachine.run r₀ es = some r) : r.Inv :=
  Machine.invariant (fun _ _ _ h hstep ↦ h.step_inv hstep) h₀.inv hrun

/-- **Safety of the arbiter.** A real link is active, a UART only while Ethernet is lost, and the
heartbeat count is zero on Ethernet and at most 1000. The generation goes up by one on exactly the
health checks that change the link. -/
theorem link_arbiter_safety {r₀ r : LinkRun} {es : List LinkEvent} (h₀ : r₀.Init)
    (hrun : linkMachine.run r₀ es = some r) :
    (r.arb.snap.active = .eth ∨ r.arb.snap.active = .telem2 ∨ r.arb.snap.active = .telem3) ∧
    (r.arb.snap.active = .telem2 ∨ r.arb.snap.active = .telem3 → r.arb.snap.ethLost = true) ∧
    (r.arb.snap.active = .eth → r.arb.snap.ethHBSinceLoss = 0) ∧
    r.arb.snap.ethHBSinceLoss ≤ 1000 ∧
    ∀ e r', linkMachine.step r e = some r' →
      (r'.arb.gen = r.arb.gen + 1 ∧ (∃ now, e = .evaluate now) ∧
        r'.arb.snap.active ≠ r.arb.snap.active) ∨
      (r'.arb.gen = r.arb.gen ∧ r'.arb.snap.active = r.arb.snap.active) := by
  have hinv := h₀.inv_of_run hrun
  refine ⟨?_, ?_, hinv.snap.count_of_eth, hinv.snap.count_le, fun e r' hstep ↦ ?_⟩
  · have hne := hinv.snap.active_ne_none
    cases hact : r.arb.snap.active <;> simp_all
  · rintro (hact | hact) <;> exact hinv.snap.ethLost_of_ne_eth (by simp [hact])
  · rcases hinv.step_gen hstep with ⟨hact, hev, hgen⟩ | ⟨hact, hgen⟩
    · exact .inl ⟨hgen, hev, hact⟩
    · exact .inr ⟨hgen, hact⟩

/-- The invariant at work: TELEM2 is open, Ethernet is silent, and three seconds in commands are
on TELEM2 with Ethernet lost. -/
theorem link_arbiter_safety_telem2 :
    ∃ r, linkMachine.run (.start 1)
        [.register (some ⟨1, some (.serial "/dev/ttyAMA2")⟩), .evaluate 3000000000] = some r ∧
      r.arb.snap.active = .telem2 ∧ r.arb.snap.ethLost = true := by
  have h₀ : (LinkRun.start 1).Init := LinkRun.init_start Nat.one_pos
  have hrun : linkMachine.run (.start 1)
      [.register (some ⟨1, some (.serial "/dev/ttyAMA2")⟩), .evaluate 3000000000] = some _ := rfl
  exact ⟨_, hrun, by decide, (link_arbiter_safety h₀ hrun).2.1 (.inl (by decide))⟩

end DroneBridge
