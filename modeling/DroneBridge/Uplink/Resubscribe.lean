import DroneBridge.Uplink.Ownership

/-!
# Re-subscribing to a new sender

`receiveFromServer` reads frames from the event channel of the sender node. Whoever replaces the
node signals on `senderRebuildCh`, a channel with one slot and a non-blocking send, so a signal that
finds the slot full is dropped. On a signal the receiver reads the pointer again.

A dropped signal does no harm: the one in the slot was sent before it and will be received after
it, and what counts is that the pointer is read after the last store. The invariant says just that:
a receiver on an old node has a signal to come.
-/

namespace DroneBridge

inductive ServerRxPc
  | start
  /-- In its loop, reading the event channel of `node`. -/
  | subscribed (node : ℕ)
  /-- It has received a signal and reads the pointer next. -/
  | signalled (node : ℕ)
  deriving DecidableEq, Repr

/-- The node whose event channel the receiver holds. -/
def ServerRxPc.node? : ServerRxPc → Option ℕ
  | .start => none
  | .subscribed n | .signalled n => some n

structure ServerRx where
  up : Uplink
  pc : ServerRxPc

inductive ServerRxEvent
  | uplink (e : UplinkEvent)
  /-- `receiveFromServer` begins and reads the pointer. -/
  | subscribe
  /-- It receives from `senderRebuildCh`. -/
  | receive
  /-- It reads the pointer again. -/
  | reread
  deriving DecidableEq, Repr

namespace ServerRx

def new (cfg : UplinkConf) (vpn : Manager) : ServerRx := ⟨.new cfg vpn, .start⟩

end ServerRx

/-- The uplink with the receiver of the server's frames. The goroutine is started after
`NewWithVPN` has returned. -/
def serverRxMachine (cfg : UplinkConf) : Machine ServerRx ServerRxEvent where
  step s e :=
    if s.up.crashed then none
    else
      match e with
      | .uplink e => ((uplinkMachine cfg).step s.up e).map fun up ↦ { s with up }
      | .subscribe =>
        if s.pc = .start ∧ s.up.boot = .done then some { s with pc := .subscribed s.up.sender }
        else none
      | .receive =>
        match s.pc with
        | .subscribed n =>
          if s.up.rebuildCh then some ⟨{ s.up with rebuildCh := false }, .signalled n⟩ else none
        | _ => none
      | .reread =>
        match s.pc with
        | .signalled _ => some { s with pc := .subscribed s.up.sender }
        | _ => none

variable {cfg : UplinkConf}

theorem serverRxMachine_step_eq_some {s s' : ServerRx} {e : ServerRxEvent} :
    (serverRxMachine cfg).step s e = some s' ↔
      s.up.crashed = false ∧
        ((∃ u up, e = .uplink u ∧ (uplinkMachine cfg).step s.up u = some up ∧ ⟨up, s.pc⟩ = s') ∨
          (e = .subscribe ∧ s.pc = .start ∧ s.up.boot = .done ∧
            ⟨s.up, .subscribed s.up.sender⟩ = s') ∨
          (∃ n, e = .receive ∧ s.pc = .subscribed n ∧ s.up.rebuildCh = true ∧
            ⟨{ s.up with rebuildCh := false }, .signalled n⟩ = s') ∨
          ∃ n, e = .reread ∧ s.pc = .signalled n ∧ ⟨s.up, .subscribed s.up.sender⟩ = s') := by
  rw [serverRxMachine]
  dsimp only
  by_cases hcr : s.up.crashed = true
  · simp [hcr]
  · rw [if_neg hcr, Bool.not_eq_true] at *
    rcases e with u | _ | _ | _
    · simp [hcr]
    · simp [hcr, and_assoc]
    · rcases hpc : s.pc <;> simp [hcr]
    · rcases hpc : s.pc <;> simp [hcr]

/-! ## A signal to come -/

namespace Uplink

variable {s s' : Uplink}

/-- A signal is in the slot, or a replacement has stored its node and signals next. -/
def SignalDue (s : Uplink) : Prop := s.rebuildCh = true ∨ ∃ i, s.builders i = .signal

/-- The sender is the same, and whatever signal was to come still is. -/
structure SignalKept (s s' : Uplink) : Prop where
  sender : s'.sender = s.sender
  rebuildCh : s'.rebuildCh = s.rebuildCh
  builders : ∀ j, s.builders j = .signal → s'.builders j = .signal

theorem SignalKept.signalDue (h : s.SignalKept s') (hs : s.SignalDue) : s'.SignalDue := by
  rcases hs with hch | ⟨j, hj⟩
  · exact .inl (h.rebuildCh.trans hch)
  · exact .inr ⟨j, h.builders j hj⟩

theorem signalKept_setBuilder {i : ℕ} (hi : s.builders i ≠ .signal) (pc : BuildPc) :
    s.SignalKept (s.setBuilder i pc) := by
  refine ⟨rfl, rfl, fun j hj ↦ (if_neg ?_).trans hj⟩
  rintro rfl
  exact hi hj

theorem signalKept_closeNode (n : ℕ) : s.SignalKept (s.closeNode n) := by
  rw [closeNode]
  split <;> exact ⟨rfl, rfl, fun _ ↦ id⟩

theorem SignalKept.trans {r : Uplink} (h : s.SignalKept s') (h' : s'.SignalKept r) :
    s.SignalKept r :=
  ⟨h'.sender.trans h.sender, h'.rebuildCh.trans h.rebuildCh,
    fun j hj ↦ h'.builders j (h.builders j hj)⟩

theorem buildStep_signal {i : ℕ} {ok : Bool} (hstep : s.buildStep cfg i ok = some s') :
    s'.SignalDue ∨ s.SignalKept s' := by
  rw [buildStep] at hstep
  rcases hpc : s.builders i with _ | _ | _ | _ | n | _ | _ | _ | endpoint | n | _ <;>
    rw [hpc] at hstep <;> dsimp only at hstep
  case idle => exact absurd hstep (by simp)
  case closeOld =>
    rw [← Option.some.inj hstep]
    have hclose : s.SignalKept (s.closeNode n) := signalKept_closeNode n
    refine .inr (hclose.trans (signalKept_setBuilder ?_ _))
    rw [closeNode]
    split <;> simp [hpc]
  case newNode =>
    have hset := signalKept_setBuilder (s := s) (i := i) (by simp [hpc])
    split at hstep <;> rw [← Option.some.inj hstep]
    · obtain ⟨h₁, h₂, h₃⟩ := hset (.store s.nodes.length)
      exact .inr ⟨h₁, h₂, h₃⟩
    · exact .inr (hset .idle)
  case store =>
    rw [← Option.some.inj hstep]
    exact .inl (.inr ⟨i, if_pos rfl⟩)
  case signal =>
    rw [← Option.some.inj hstep]
    exact .inl (.inl rfl)
  all_goals
    rw [← Option.some.inj hstep]
    exact .inr (signalKept_setBuilder (by simp [hpc]) _)

/-- Once `NewWithVPN` has returned, a step that changes the sender leaves a signal to come. -/
theorem step_signal (hdone : s.boot = .done) {e : UplinkEvent}
    (hstep : (uplinkMachine cfg).step s e = some s') :
    s'.boot = .done ∧ (s'.SignalDue ∨ s.SignalKept s') := by
  obtain ⟨-, hcase⟩ := uplinkMachine_step_eq_some.mp hstep
  rcases hcase with ⟨v, rfl, rfl⟩ | ⟨ok, rfl, hboot⟩ | ⟨p, rfl, -, hparty⟩
  · exact ⟨hdone, .inr ⟨rfl, rfl, fun _ ↦ id⟩⟩
  · exact absurd hdone (bootStep_early hboot).2.1
  · refine ⟨(partyStep_boot hparty).trans hdone, ?_⟩
    rcases partyStep_cases hparty with ⟨i, ok, rfl, hbuild⟩ | ⟨-, ⟨i, pc, hi, -, -, rfl⟩ | hsame⟩
    · exact buildStep_signal hbuild
    · exact .inr (signalKept_setBuilder (by simp [hi]) pc)
    · exact .inr ⟨hsame.sender, hsame.rebuildCh, fun j hj ↦ by rw [hsame.builders, hj]⟩

end Uplink

/-! ## The invariant -/

namespace ServerRx

variable {s s' : ServerRx}

/-- A receiver on an old node has a signal to come. -/
structure Inv (s : ServerRx) : Prop where
  done : s.pc ≠ .start → s.up.boot = .done
  due : ∀ n, s.pc = .subscribed n → n = s.up.sender ∨ s.up.SignalDue

theorem Inv.step (h : s.Inv) {e : ServerRxEvent}
    (hstep : (serverRxMachine cfg).step s e = some s') : s'.Inv := by
  obtain ⟨-, hcase⟩ := serverRxMachine_step_eq_some.mp hstep
  rcases hcase with ⟨u, up, rfl, hup, rfl⟩ | ⟨rfl, -, hdone, rfl⟩ | ⟨n, rfl, hpc, -, rfl⟩ |
    ⟨n, rfl, hpc, rfl⟩
  · refine ⟨fun hpc ↦ (Uplink.step_signal (h.done hpc) hup).1, fun n hn ↦ ?_⟩
    have hnot : s.pc ≠ .start := by simp [show s.pc = .subscribed n from hn]
    rcases (Uplink.step_signal (h.done hnot) hup).2 with hdue | hkept
    · exact .inr hdue
    · rw [hkept.sender]
      exact (h.due n hn).imp_right hkept.signalDue
  · exact ⟨fun _ ↦ hdone, fun n hn ↦ .inl (ServerRxPc.subscribed.inj hn).symm⟩
  · exact ⟨fun _ ↦ h.done (by simp [hpc]), nofun⟩
  · exact ⟨fun _ ↦ h.done (by simp [hpc]), fun n hn ↦ .inl (ServerRxPc.subscribed.inj hn).symm⟩

theorem inv_of_run {vpn : Manager} {es : List ServerRxEvent}
    (hrun : (serverRxMachine cfg).run (.new cfg vpn) es = some s) : s.Inv := by
  have h₀ : (new cfg vpn).Inv := ⟨fun h ↦ absurd rfl h, fun n hn ↦ absurd hn (by simp [new])⟩
  exact Machine.invariant (fun _ _ _ h hstep ↦ h.step hstep) h₀ hrun

/-! ## Catching up -/

/-- Within `k` steps the receiver holds the node that is the sender in `s`, and it still is. -/
def CatchesUp (cfg : UplinkConf) (k : ℕ) (s : ServerRx) : Prop :=
  ∃ fs t, (serverRxMachine cfg).run s fs = some t ∧ fs.length ≤ k ∧
    t.pc = .subscribed s.up.sender ∧ t.up.sender = s.up.sender

theorem CatchesUp.of_step {e : ServerRxEvent} {k : ℕ}
    (hstep : (serverRxMachine cfg).step s e = some s') (hsender : s'.up.sender = s.up.sender)
    (h : s'.CatchesUp cfg k) : s.CatchesUp cfg (k + 1) := by
  obtain ⟨fs, t, hrun, hlen, hpc, hsame⟩ := h
  refine ⟨e :: fs, t, Machine.run_cons_eq_some.mpr ⟨s', hstep, hrun⟩, ?_, ?_, ?_⟩
  · exact Nat.succ_le_succ hlen
  · rw [hpc, hsender]
  · rw [hsame, hsender]

theorem catchesUp_of_signalled (hcr : s.up.crashed = false) {n : ℕ} (hpc : s.pc = .signalled n) :
    s.CatchesUp cfg 1 := by
  have hstep : (serverRxMachine cfg).step s .reread = some ⟨s.up, .subscribed s.up.sender⟩ :=
    serverRxMachine_step_eq_some.mpr ⟨hcr, .inr (.inr (.inr ⟨n, rfl, hpc, rfl⟩))⟩
  exact .of_step hstep rfl ⟨[], _, rfl, Nat.le_refl 0, rfl, rfl⟩

theorem catchesUp_of_rebuildCh (hcr : s.up.crashed = false) {n : ℕ} (hpc : s.pc = .subscribed n)
    (hch : s.up.rebuildCh = true) : s.CatchesUp cfg 2 := by
  have hstep : (serverRxMachine cfg).step s .receive =
      some ⟨{ s.up with rebuildCh := false }, .signalled n⟩ :=
    serverRxMachine_step_eq_some.mpr ⟨hcr, .inr (.inr (.inl ⟨n, rfl, hpc, hch, rfl⟩))⟩
  exact .of_step hstep rfl (catchesUp_of_signalled hcr rfl)

theorem catchesUp_of_signal (hcr : s.up.crashed = false) (hdone : s.up.boot = .done) {n : ℕ}
    (hpc : s.pc = .subscribed n) {i : ℕ} (hi : s.up.builders i = .signal) :
    s.CatchesUp cfg 3 := by
  have hparty : s.up.partyStep cfg (.build i true) =
      some { s.up.setBuilder i .idle with rebuildCh := true } := by
    rw [Uplink.partyStep, Uplink.buildStep, hi]
  have hstep : (serverRxMachine cfg).step s (.uplink (.party (.build i true))) =
      some ⟨{ s.up.setBuilder i .idle with rebuildCh := true }, s.pc⟩ :=
    serverRxMachine_step_eq_some.mpr
      ⟨hcr, .inl ⟨_, _, rfl, Uplink.party_step hcr hdone hparty, rfl⟩⟩
  exact .of_step hstep rfl (catchesUp_of_rebuildCh hcr hpc rfl)

theorem CatchesUp.mono {j k : ℕ} (hjk : j ≤ k) (h : s.CatchesUp cfg j) : s.CatchesUp cfg k := by
  obtain ⟨fs, t, hrun, hlen, hend⟩ := h
  exact ⟨fs, t, hrun, Nat.le_trans hlen hjk, hend⟩

theorem Inv.catchesUp (h : s.Inv) (hcr : s.up.crashed = false) (hstart : s.pc ≠ .start) :
    s.CatchesUp cfg 3 := by
  rcases hpc : s.pc with _ | n | n
  · exact absurd hpc hstart
  · rcases h.due n hpc with rfl | hch | ⟨i, hi⟩
    · exact ⟨[], s, rfl, Nat.zero_le 3, hpc, rfl⟩
    · exact (catchesUp_of_rebuildCh hcr hpc hch).mono (by decide)
    · exact catchesUp_of_signal hcr (h.done hstart) hpc hi
  · exact (catchesUp_of_signalled hcr hpc).mono (by decide)

end ServerRx

/-- **No re-subscription is lost.** Where `receiveFromServer` holds the channel of another node than
the sender, a signal is pending or on its way. While the program runs, at most one such signal and
two steps of the receiver bring it to the sender. -/
theorem resubscription_not_lost {vpn : Manager} {es : List ServerRxEvent} {s : ServerRx}
    (hrun : (serverRxMachine cfg).run (.new cfg vpn) es = some s) :
    (∀ n, s.pc.node? = some n → n ≠ s.up.sender →
      s.up.rebuildCh = true ∨ (∃ i, s.up.builders i = .signal) ∨ s.pc = .signalled n) ∧
    (s.up.crashed = false → s.pc ≠ .start → s.CatchesUp cfg 3) := by
  have hinv := ServerRx.inv_of_run hrun
  refine ⟨fun n hn hne ↦ ?_, fun hcr hstart ↦ hinv.catchesUp hcr hstart⟩
  rcases hpc : s.pc with _ | m | m <;> rw [hpc] at hn <;>
    simp only [ServerRxPc.node?, Option.some.injEq, reduceCtorEq] at hn
  · rw [hn] at hpc
    rcases (hinv.due n hpc).resolve_left hne with hch | hsignal
    · exact .inl hch
    · exact .inr (.inl hsignal)
  · exact .inr (.inr (by rw [hn]))

/-- Two rebuilds before the receiver looks: the second signal is dropped, and the receiver still
ends on the newest node. -/
theorem resubscription_not_lost_twice :
    ∃ s, (serverRxMachine ⟨"server:14550", false⟩).run
        (.new ⟨"server:14550", false⟩ ⟨none, none, false⟩)
        (.uplink (.boot true) :: .subscribe ::
          (List.replicate 2 (.uplink (.party (.rebuildSender 0)) ::
            List.replicate 6 (.uplink (.party (.build 0 true))))).flatten) = some s ∧
      s.pc = .subscribed 0 ∧ s.up.sender = 2 ∧ s.up.rebuildCh = true ∧
      s.CatchesUp ⟨"server:14550", false⟩ 3 := by
  have hrun : (serverRxMachine ⟨"server:14550", false⟩).run
      (.new ⟨"server:14550", false⟩ ⟨none, none, false⟩)
      (.uplink (.boot true) :: .subscribe ::
        (List.replicate 2 (.uplink (.party (.rebuildSender 0)) ::
          List.replicate 6 (.uplink (.party (.build 0 true))))).flatten) = some _ := rfl
  exact ⟨_, hrun, rfl, rfl, rfl, (resubscription_not_lost hrun).2 rfl (by simp)⟩

end DroneBridge
