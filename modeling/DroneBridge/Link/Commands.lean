import DroneBridge.Lib.Since
import DroneBridge.Link.Availability
import DroneBridge.Link.Dedup

/-!
# Commands to the flight controller

Commands and the heartbeat of the ground station go to the registered channel of the active link.
The channel is chosen under `mu`, and `mu` is released before the message is handed to the node. A
link change in between would send a command on a link that is receive-only by then. What keeps it
out is the second mutex: `write`, `sendHeartbeat` and `evaluate` hold `txMu` from beginning to end.

The model has any number of goroutines in these three functions, each cut where it takes or releases
a mutex, next to the receiver and the other critical sections of `mu`, which take `txMu` nowhere:
they may replace the channel of a link at any time, but only a decision of `evaluate` changes the
active link.
-/

namespace DroneBridge

/-! ## The goroutines that hold `txMu` -/

/-- What is sent on the active link; the type of commands is left open. -/
inductive TxMessage (μ : Type)
  | gcsHeartbeat
  | command (msg : μ)
  deriving DecidableEq, Repr

/-- A call, with what it is checked for before a mutex is taken. -/
inductive TxCall (μ : Type)
  | evaluate (now : ℕ)
  | sendHeartbeat (node : Bool)
  | write (node : Bool) (msg : Option μ)
  deriving DecidableEq, Repr

inductive TxPc (μ : Type)
  | idle
  /-- `evaluate` waits for `txMu`. -/
  | evaluate (now : ℕ)
  | deciding (now : ℕ)
  /-- `write` or `sendHeartbeat` waits for `txMu`. -/
  | send (m : TxMessage μ)
  | choosing (m : TxMessage μ)
  /-- The channel is chosen for this link, and `mu` is released. -/
  | chosen (m : TxMessage μ) (id : LinkID) (c : Channel)
  | returning
  deriving DecidableEq, Repr

variable {μ : Type}

/-- Without a node or a message nothing is sent. -/
def TxCall.entry : TxCall μ → TxPc μ
  | evaluate now => .evaluate now
  | sendHeartbeat node => if node then .send .gcsHeartbeat else .idle
  | write true (some msg) => .send (.command msg)
  | write _ _ => .idle

def TxPc.holds : TxPc μ → Bool
  | deciding _ | choosing _ | chosen .. | returning => true
  | _ => false

theorem TxCall.holds_entry (call : TxCall μ) : call.entry.holds = false := by
  cases call with
  | evaluate now => rfl
  | sendHeartbeat node => cases node <;> rfl
  | write node msg => cases node <;> cases msg <;> rfl

/-! ## Runs -/

structure TxRun (μ : Type) where
  /-- The arbiter, and the receiver that observes frames. -/
  net : DedupRun
  txMu : Option ℕ
  pc : ℕ → TxPc μ
  /-- The messages handed to the node, each with the channel it is addressed to. -/
  handed : List (TxMessage μ × Channel)

inductive TxEvent (μ : Type)
  /-- A step of the receiver, or a critical section under `mu` alone. -/
  | net (e : DedupEvent)
  | call (i : ℕ) (call : TxCall μ)
  | run (i : ℕ)
  deriving DecidableEq, Repr

def DedupEvent.isEvaluate : DedupEvent → Bool
  | .link (.evaluate _) => true
  | _ => false

namespace TxRun

variable (s : TxRun μ)

def arb : Px4Arbiter := s.net.link.arb

def active : LinkID := s.arb.snap.active

def setPc (i : ℕ) (pc : TxPc μ) : TxRun μ := { s with pc := Function.update s.pc i pc }

def lock (i : ℕ) (pc : TxPc μ) : Option (TxRun μ) :=
  if s.txMu = none then some { s.setPc i pc with txMu := some i } else none

def goOn (i : ℕ) : TxPc μ → Option (TxRun μ)
  | .idle => none
  | .evaluate now => s.lock i (.deciding now)
  | .deciding now =>
    (dedupMachine.step s.net (.link (.evaluate now))).map fun net ↦
      { s.setPc i .returning with net }
  | .send m => s.lock i (.choosing m)
  | .choosing m =>
    match s.arb.commandChannel with
    | .error _ => some (s.setPc i .returning)
    | .ok c => some (s.setPc i (.chosen m s.active c))
  | .chosen m _ c => some { s.setPc i .returning with handed := s.handed ++ [(m, c)] }
  | .returning => some { s.setPc i .idle with txMu := none }

end TxRun

def txMachine (μ : Type) : Machine (TxRun μ) (TxEvent μ) where
  step s
    | .net e =>
      if e.isEvaluate then none else (dedupMachine.step s.net e).map fun net ↦ { s with net }
    | .call i call =>
      match s.pc i with
      | .idle => some (s.setPc i call.entry)
      | _ => none
    | .run i => s.goOn i (s.pc i)

structure TxRun.Init (s : TxRun μ) : Prop where
  link : s.net.link.Init
  txMu : s.txMu = none
  pc : ∀ i, s.pc i = .idle

def TxRun.start (now : ℕ) : TxRun μ := ⟨.start now, none, fun _ ↦ .idle, []⟩

/-! ## What a step does to the active link -/

theorem DedupRun.inv_setArb {d : DedupRun} {arb : Px4Arbiter} (hd : d.link.Inv)
    (hsnap : arb.snap = d.link.arb.snap) : (d.setArb arb).link.Inv :=
  ⟨hsnap ▸ hd.snap, hd.clock, hsnap ▸ hd.entered⟩

/-- The receiver and the sections under `mu` keep the invariant of the arbiter, and none of them but
a decision changes the active link. -/
theorem DedupRun.step_active {d d' : DedupRun} {e : DedupEvent} (hd : d.link.Inv)
    (hstep : dedupMachine.step d e = some d') :
    d'.link.Inv ∧
      (e.isEvaluate = false → d'.link.arb.snap.active = d.link.arb.snap.active) := by
  rcases e with e | frame | _ | now | _ | _ <;> dsimp only [dedupMachine] at hstep
  case link =>
    obtain ⟨link, hlink, rfl⟩ := Option.map_eq_some_iff.mp hstep
    refine ⟨hd.step_inv hlink, fun he ↦ ?_⟩
    rcases hd.step_gen hlink with ⟨-, ⟨now, rfl⟩, -⟩ | ⟨hact, -⟩
    · cases he
    · exact hact
  case arrive | read | process =>
    split at hstep
    case h_2 => cases hstep
    case h_1 =>
      cases hstep
      exact ⟨hd, fun _ ↦ rfl⟩
  case store =>
    split at hstep
    case h_2 => cases hstep
    case h_1 frame id _ =>
      cases hstep
      have hsnap := (d.link.arb.storeChannel_snap id frame.channel).1
      exact ⟨inv_setArb hd hsnap, fun _ ↦ congrArg LinkSnap.active hsnap⟩
  case note =>
    split at hstep
    case h_2 => cases hstep
    case h_1 frame id _ =>
      cases hstep
      split
      · have hnote : linkMachine.step d.link (.noteHeartbeat id now) =
            some { d.link with arb := d.link.arb.noteHeartbeat id now } := rfl
        exact ⟨hd.step_inv hnote, fun _ ↦ d.link.arb.noteHeartbeat_active id now⟩
      · exact ⟨hd, fun _ ↦ rfl⟩

namespace TxRun

variable {s s' : TxRun μ} {i j : ℕ} {e : TxEvent μ}

/-- Mutual exclusion, with what the arbiter keeps. -/
structure Inv (s : TxRun μ) : Prop where
  link : s.net.link.Inv
  holds : ∀ i, (s.pc i).holds = true → s.txMu = some i

theorem Init.inv (h : s.Init) : s.Inv := by
  refine ⟨h.link.inv, fun i hi ↦ ?_⟩
  rw [h.pc i] at hi
  cases hi

/-- What one step of a goroutine does: it takes `txMu`, decides, chooses, hands over or returns. -/
inductive Move (s : TxRun μ) (i : ℕ) : TxRun μ → Prop
  | lock (pc : TxPc μ) (hfree : s.txMu = none) (hpc : ∀ m id c, pc ≠ .chosen m id c) :
      Move s i { s.setPc i pc with txMu := some i }
  | decide (now : ℕ) (net : DedupRun) (hpc : s.pc i = .deciding now)
      (hnet : dedupMachine.step s.net (.link (.evaluate now)) = some net) :
      Move s i { s.setPc i .returning with net }
  | choose (m : TxMessage μ) (c : Channel) (hpc : s.pc i = .choosing m)
      (hch : s.arb.ch s.active = some c) : Move s i (s.setPc i (.chosen m s.active c))
  | noChannel (m : TxMessage μ) (hpc : s.pc i = .choosing m) : Move s i (s.setPc i .returning)
  | handOver (m : TxMessage μ) (id : LinkID) (c : Channel) (hpc : s.pc i = .chosen m id c) :
      Move s i { s.setPc i .returning with handed := s.handed ++ [(m, c)] }
  | unlock (hpc : s.pc i = .returning) : Move s i { s.setPc i .idle with txMu := none }

theorem commandChannel_eq_ok {a : Px4Arbiter} {c : Channel} :
    a.commandChannel = .ok c ↔ a.ch a.snap.active = some c := by
  rw [Px4Arbiter.commandChannel]
  cases a.ch a.snap.active <;> simp

theorem goOn_move (h : s.goOn i (s.pc i) = some s') : Move s i s' := by
  generalize hpc : s.pc i = pc at h
  cases pc with
  | idle => cases h
  | evaluate now =>
    obtain ⟨hfree, h⟩ := Option.ite_none_right_eq_some.mp h
    exact Option.some.inj h ▸ .lock _ hfree nofun
  | deciding now =>
    obtain ⟨net, hnet, rfl⟩ := Option.map_eq_some_iff.mp h
    exact .decide now net hpc hnet
  | send m =>
    obtain ⟨hfree, h⟩ := Option.ite_none_right_eq_some.mp h
    exact Option.some.inj h ▸ .lock _ hfree nofun
  | choosing m =>
    dsimp only [goOn] at h
    split at h
    case h_1 =>
      cases h
      exact .noChannel m hpc
    case h_2 c hc =>
      cases h
      exact .choose m c hpc (commandChannel_eq_ok.mp hc)
  | chosen m id c =>
    cases h
    exact .handOver m id c hpc
  | returning =>
    cases h
    exact .unlock hpc

/-- Every step is one of the receiver or the arbiter, a call, or a move of a goroutine. -/
theorem step_cases (h : (txMachine μ).step s e = some s') :
    (∃ d net, e = .net d ∧ d.isEvaluate = false ∧ dedupMachine.step s.net d = some net ∧
      s' = { s with net }) ∨
    (∃ i call, e = .call i call ∧ s' = s.setPc i call.entry) ∨
    ∃ i, e = .run i ∧ Move s i s' := by
  cases e with
  | net d =>
    obtain ⟨hd, h⟩ := Option.ite_none_left_eq_some.mp h
    obtain ⟨net, hnet, rfl⟩ := Option.map_eq_some_iff.mp h
    exact .inl ⟨d, net, rfl, eq_false_of_ne_true hd, hnet, rfl⟩
  | call i call =>
    dsimp only [txMachine] at h
    split at h
    case h_1 =>
      cases h
      exact .inr (.inl ⟨i, call, rfl, rfl⟩)
    case h_2 => cases h
  | run i => exact .inr (.inr ⟨i, rfl, goOn_move h⟩)

/-! ## Mutual exclusion -/

theorem setPc_pc_of_ne (h : j ≠ i) (pc : TxPc μ) : (s.setPc i pc).pc j = s.pc j :=
  Function.update_of_ne h ..

theorem setPc_pc_self (pc : TxPc μ) : (s.setPc i pc).pc i = pc := Function.update_self ..

theorem Inv.holds_setPc (h : s.Inv) (hi : (s.pc i).holds = true) (pc : TxPc μ) (j : ℕ)
    (hj : ((s.setPc i pc).pc j).holds = true) : s.txMu = some j := by
  by_cases hne : j = i
  · rw [hne]
    exact h.holds i hi
  · rw [setPc_pc_of_ne hne] at hj
    exact h.holds j hj

theorem Inv.move (h : s.Inv) (hm : Move s i s') : s'.Inv := by
  cases hm with
  | lock pc hfree =>
    refine ⟨h.link, fun j hj ↦ ?_⟩
    by_cases hne : j = i
    · rw [hne]
    · have hold := h.holds j (setPc_pc_of_ne (s := s) hne pc ▸ hj)
      rw [hfree] at hold
      cases hold
  | decide now net hpc hnet =>
    exact ⟨(DedupRun.step_active h.link hnet).1, h.holds_setPc (by rw [hpc]; rfl) .returning⟩
  | choose m c hpc => exact ⟨h.link, h.holds_setPc (by rw [hpc]; rfl) _⟩
  | noChannel m hpc => exact ⟨h.link, h.holds_setPc (by rw [hpc]; rfl) _⟩
  | handOver m id c hpc => exact ⟨h.link, h.holds_setPc (by rw [hpc]; rfl) .returning⟩
  | unlock hpc =>
    refine ⟨h.link, fun j hj ↦ ?_⟩
    have hi := h.holds i (by rw [hpc]; rfl)
    by_cases hne : j = i
    · have hidle : (s.setPc i .idle).pc j = .idle := hne ▸ setPc_pc_self _
      cases (congrArg TxPc.holds hidle).symm.trans hj
    · have hold := h.holds j (setPc_pc_of_ne (s := s) hne .idle ▸ hj)
      exact absurd (Option.some.inj (hold.symm.trans hi)) hne

theorem Inv.step (h : s.Inv) (hstep : (txMachine μ).step s e = some s') : s'.Inv := by
  obtain ⟨d, net, rfl, -, hnet, rfl⟩ | ⟨i, call, rfl, rfl⟩ | ⟨i, rfl, hm⟩ := step_cases hstep
  · exact ⟨(DedupRun.step_active h.link hnet).1, h.holds⟩
  · refine ⟨h.link, fun j hj ↦ ?_⟩
    by_cases hne : j = i
    · rw [hne, setPc_pc_self, call.holds_entry] at hj
      cases hj
    · rw [setPc_pc_of_ne hne] at hj
      exact h.holds j hj
  · exact h.move hm

/-- Only a goroutine in the middle of `evaluate` changes the active link. -/
theorem Inv.active_step (h : s.Inv) (hstep : (txMachine μ).step s e = some s') :
    s'.active = s.active ∨ ∃ j now, s.pc j = .deciding now ∧ e = .run j := by
  obtain ⟨d, net, rfl, hd, hnet, rfl⟩ | ⟨i, call, rfl, rfl⟩ | ⟨i, rfl, hm⟩ := step_cases hstep
  · exact .inl ((DedupRun.step_active h.link hnet).2 hd)
  · exact .inl rfl
  · cases hm with
    | decide now net hpc => exact .inr ⟨i, now, hpc, rfl⟩
    | _ => exact .inl rfl

/-! ## From the choice to the hand-over -/

variable {m : TxMessage μ} {id : LinkID} {c : Channel}

/-- The step in which a goroutine chooses a channel is the one that leads to `chosen`. -/
theorem chosen_of_step (hstep : (txMachine μ).step s e = some s') (hs : s.pc i ≠ .chosen m id c)
    (hs' : s'.pc i = .chosen m id c) :
    e = .run i ∧ s.pc i = .choosing m ∧ s.active = id ∧ s.arb.ch id = some c ∧
      s'.active = id := by
  obtain ⟨d, net, rfl, -, -, rfl⟩ | ⟨j, call, rfl, rfl⟩ | ⟨j, rfl, hm⟩ := step_cases hstep
  · exact absurd hs' hs
  · by_cases hne : i = j
    · rw [hne, setPc_pc_self] at hs'
      have hidle := call.holds_entry
      rw [hs'] at hidle
      cases hidle
    · rw [setPc_pc_of_ne hne] at hs'
      exact absurd hs' hs
  · by_cases hne : i = j
    · subst hne
      cases hm with
      | lock pc _ hpc => exact absurd ((setPc_pc_self (s := s) pc).symm.trans hs') (hpc m id c)
      | choose m' c' hpc hch =>
        rw [setPc_pc_self, TxPc.chosen.injEq] at hs'
        obtain ⟨rfl, rfl, rfl⟩ := hs'
        exact ⟨rfl, hpc, rfl, hch, rfl⟩
      | decide | handOver | noChannel =>
        cases (setPc_pc_self (s := s) (i := i) .returning).symm.trans hs'
      | unlock => cases (setPc_pc_self (s := s) (i := i) .idle).symm.trans hs'
    · have hkeep : s'.pc i = s.pc i := by cases hm <;> exact setPc_pc_of_ne hne _
      exact absurd (hkeep.symm.trans hs') hs

/-- While a goroutine has chosen a channel the active link stays. -/
theorem Inv.active_of_chosen (h : s.Inv) (hstep : (txMachine μ).step s e = some s')
    (hs : s.pc i = .chosen m id c) : s'.active = s.active := by
  rcases h.active_step hstep with hact | ⟨j, now, hj, -⟩
  · exact hact
  · -- The goroutine that decides would hold `txMu` as well.
    have hi := h.holds i (by rw [hs]; rfl)
    obtain rfl : i = j := Option.some.inj (hi.symm.trans (h.holds j (by rw [hj]; rfl)))
    cases hs.symm.trans hj

/-- Messages are handed over one at a time, by a goroutine that has chosen. -/
theorem handed_of_step (hstep : (txMachine μ).step s e = some s') (hne : s'.handed ≠ s.handed) :
    ∃ i m id c, e = .run i ∧ s.pc i = .chosen m id c ∧ s'.handed = s.handed ++ [(m, c)] := by
  obtain ⟨d, net, rfl, -, -, rfl⟩ | ⟨j, call, rfl, rfl⟩ | ⟨j, rfl, hm⟩ := step_cases hstep
  · exact absurd rfl hne
  · exact absurd rfl hne
  · cases hm with
    | handOver m id c hpc => exact ⟨j, m, id, c, rfl, hpc, rfl⟩
    | _ => exact absurd rfl hne

end TxRun

/-- **Commands stay on the active link.** A step that hands anything over hands over one message,
whose channel was chosen by the same goroutine and registered for the link that has been active from
then until now. -/
theorem handed_on_active_link {s₀ s s' : TxRun μ} {es : List (TxEvent μ)} {e : TxEvent μ}
    (h₀ : s₀.Init) (hrun : (txMachine μ).run s₀ es = some s)
    (hstep : (txMachine μ).step s e = some s') (hne : s'.handed ≠ s.handed) :
    ∃ i m c, e = .run i ∧ s'.handed = s.handed ++ [(m, c)] ∧
      (txMachine μ).Since s₀ es
        (fun s₁ f ↦ f = .run i ∧ s₁.pc i = .choosing m ∧ s₁.arb.ch s.active = some c)
        (fun s₂ ↦ s₂.active = s.active) := by
  obtain ⟨i, m, id, c, rfl, hpc, hhanded⟩ := TxRun.handed_of_step hstep hne
  have hsince := Machine.since_of_run (J := TxRun.Inv) (K := fun s ↦ s.pc i = .chosen m id c)
    (B := fun s₁ f ↦ f = .run i ∧ s₁.pc i = .choosing m ∧ s₁.arb.ch id = some c)
    (Q := fun s₂ ↦ s₂.active = id) h₀.inv (by rw [h₀.pc i]; exact nofun)
    (fun _ _ _ h hstep ↦ h.step hstep) ?_ ?_ hrun hpc
  · obtain rfl : s.active = id := hsince.now hrun
    exact ⟨i, m, c, rfl, hhanded, hsince⟩
  · intro s e s' _ hstep hs hs'
    obtain ⟨he, hchoosing, hact, hch, hact'⟩ := TxRun.chosen_of_step hstep hs hs'
    exact ⟨⟨he, hchoosing, hch⟩, hact, hact'⟩
  · intro s e s' h hstep hs _ hact
    exact (h.active_of_chosen hstep hs).trans hact

/-- A command waits with its channel chosen while Ethernet gets another channel and a health check
waits for `txMu`. -/
def replacedChannel : List (TxEvent ℕ) :=
  [.net (.link (.register (some ⟨0, some .custom⟩))), .call 0 (.write true (some 7)), .run 0,
    .run 0, .call 1 (.evaluate 3000000000), .net (.link (.register (some ⟨1, some .custom⟩)))]

theorem handed_on_active_link_replaced :
    ∃ s s', (txMachine ℕ).run (.start 1) replacedChannel = some s ∧
      (txMachine ℕ).step s (.run 1) = none ∧ (txMachine ℕ).step s (.run 0) = some s' ∧
      s.arb.ch .eth = some ⟨1, some .custom⟩ ∧ s'.handed = [(.command 7, ⟨0, some .custom⟩)] ∧
      ∃ i m c, s'.handed = s.handed ++ [(m, c)] ∧
        (txMachine ℕ).Since (.start 1) replacedChannel
          (fun s₁ f ↦ f = .run i ∧ s₁.pc i = .choosing m ∧ s₁.arb.ch s.active = some c)
          (fun s₂ ↦ s₂.active = s.active) := by
  have h₀ : (TxRun.start 1 : TxRun ℕ).Init :=
    ⟨LinkRun.init_start Nat.one_pos, rfl, fun _ ↦ rfl⟩
  obtain ⟨s, s', hrun, hblocked, hstep, hch, hhanded, hnothing⟩ :
      ∃ s s', (txMachine ℕ).run (.start 1) replacedChannel = some s ∧
        (txMachine ℕ).step s (.run 1) = none ∧ (txMachine ℕ).step s (.run 0) = some s' ∧
        s.arb.ch .eth = some ⟨1, some .custom⟩ ∧ s'.handed = [(.command 7, ⟨0, some .custom⟩)] ∧
        s.handed = [] :=
    ⟨_, _, rfl, rfl, rfl, rfl, rfl, rfl⟩
  obtain ⟨i, m, c, -, hnew, hsince⟩ := handed_on_active_link h₀ hrun hstep
    (by rw [hhanded, hnothing]; exact List.cons_ne_nil _ _)
  exact ⟨s, s', hrun, hblocked, hstep, hch, hhanded, i, m, c, hnew, hsince⟩

end DroneBridge
