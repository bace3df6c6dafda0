import DroneBridge.Lib.Handover
import DroneBridge.Uplink.Tunnel

/-!
# Who owns the sender node

`NewWithVPN`, `RebindUplink` and the `rebuildSender` of the IP monitor all replace the sender node
in the same way: read the pointer, close the node, make a new one, store it. `senderMu` guards the
read and the store only. When a new node cannot be made the pointer stays on the closed one, and
the next replacement closes it again.

The file maps the state of the uplink to the handover protocol (`Uplink.slot`): `NewWithVPN` is one
more party, which reads and closes in one step. Every step of the uplink is a short run of the
protocol (`Uplink.simulates`), so what the protocol guarantees holds of the uplink: at most one
node is open, and no node is closed twice as long as each replacement starts from an open node that
nobody else is about to close.
-/

namespace DroneBridge

open Handover

def BuildPc.phase : BuildPc → Phase
  | .closeOld n => .closing n
  | .confIsRunning | .confGetAssignedIP | .confDialUDP | .newNode _ => .building
  | .store n => .storing n
  | _ => .out

def BootPc.phase : BootPc → Phase
  | .dialUDP | .newNode => .building
  | .store n => .storing n
  | _ => .out

namespace Uplink

/-- The replacement of the sender as the handover of a cell. The party `none` is `NewWithVPN`. -/
def slot (s : Uplink) : Slot (Option ℕ) where
  closes := s.nodes.map (·.closes)
  current := s.sender
  phase
    | none => s.boot.phase
    | some i => (s.builders i).phase

/-- The node at `n` exists and was not closed. -/
def Open (s : Uplink) (n : ℕ) : Prop := ∃ node, s.nodes[n]? = some node ∧ node.closes = 0

/-- A replacement that reads the pointer finds an open node that nobody is about to close. -/
def Owns (s : Uplink) : UplinkEvent → Prop
  | .party (.build i _) =>
    s.builders i = .readOld → s.Open s.sender ∧ ∀ j, s.builders j ≠ .closeOld s.sender
  | _ => True

/-- What a step does in the protocol. -/
def acts (s : Uplink) : UplinkEvent → List (Act (Option ℕ))
  | .boot ok =>
    match s.boot with
    | .close => [.read none, .close none]
    | .dialUDP => if s.vpn.dialUDP ok then [] else [.abandon none]
    | .newNode => if ok then [.create none] else [.abandon none]
    | .store _ => [.store none]
    | _ => []
  | .party (.build i ok) =>
    match s.builders i with
    | .readOld => [.read (some i)]
    | .closeOld _ => [.close (some i)]
    | .newNode _ => if ok then [.create (some i)] else [.abandon (some i)]
    | .store _ => [.store (some i)]
    | _ => []
  | _ => []

variable {s s' : Uplink} {cfg : UplinkConf}

/-! ## The mapping -/

theorem open_slot {n : ℕ} : s.slot.Open n ↔ s.Open n := by
  simp [Slot.Open, slot, Open]

theorem doubled_slot : s.slot.Doubled ↔ ∃ node ∈ s.nodes, 1 < node.closes := by
  simp [Slot.Doubled, slot]

theorem slot_setBuilder (s : Uplink) (i : ℕ) (pc : BuildPc) :
    (s.setBuilder i pc).slot = s.slot.setPhase (some i) pc.phase := by
  ext1
  · rfl
  · rfl
  · funext a
    rw [Slot.setPhase_phase]
    rcases a with _ | j
    · rfl
    · simp only [slot, setBuilder, Option.some.injEq]
      split <;> rfl

theorem slot_setBoot (s : Uplink) (pc : BootPc) :
    slot { s with boot := pc } = s.slot.setPhase none pc.phase := by
  ext1
  · rfl
  · rfl
  · funext a
    rw [Slot.setPhase_phase]
    rcases a with _ | j <;> rfl

theorem slot_addNode (endpoint : SenderEndpoint) :
    slot { s with nodes := s.nodes ++ [⟨endpoint, 0⟩] } = s.slot.addCell := by
  ext1
  · exact List.map_append
  · rfl
  · rfl

theorem length_slot : s.slot.closes.length = s.nodes.length := List.length_map ..

theorem slot_closeNode (n : ℕ) : (s.closeNode n).slot = s.slot.close n := by
  rw [closeNode]
  split
  case h_1 hnone =>
    ext1
    · refine (List.modify_eq_self ?_).symm
      rw [slot, List.length_map]
      exact List.getElem?_eq_none_iff.mp hnone
    · rfl
    · rfl
  case h_2 node hnode =>
    ext1
    · dsimp only [slot, Slot.close]
      apply List.ext_getElem?
      intro m
      rw [List.getElem?_map, List.getElem?_modify, List.getElem?_map, List.getElem?_set]
      by_cases hnm : n = m
      · have hlt := (List.getElem?_eq_some_iff.mp hnode).1
        rw [← hnm, hnode]
        simp [hlt]
      · simp [hnm]
    · rfl
    · rfl

/-! ## The simulation -/

theorem bootStep_simulates {ok : Bool} (hd : ¬ s.slot.Doubled)
    (hstep : s.bootStep cfg ok = some s') :
    (machine (Option ℕ)).run s.slot (s.acts (.boot ok)) = some s'.slot := by
  have hphase : s.slot.phase none = s.boot.phase := rfl
  rw [bootStep] at hstep
  rw [acts]
  rcases hpc : s.boot with _ | _ | _ | _ | _ | n | _ <;> rw [hpc] at hstep hphase <;>
    dsimp only at hstep ⊢
  case isRunning | getAssignedIP =>
    rw [← Option.some.inj hstep]
    refine congrArg some (Eq.symm ((slot_setBoot s _).trans (Slot.setPhase_self _ ?_)))
    rw [hphase]
    split <;> rfl
  case close =>
    -- One step of the source, a read and a close of the protocol.
    have hs : s'.slot = (s.slot.close s.sender).setPhase none .building := by
      rw [← Option.some.inj hstep, ← slot_closeNode]
      exact slot_setBoot (s.closeNode s.sender) .dialUDP
    rw [hs]
    exact run_read_close hd hphase
  case dialUDP =>
    have hs : s'.slot = s.slot.setPhase none (if s.vpn.dialUDP ok then .building else .out) := by
      rw [← Option.some.inj hstep]
      refine (slot_setBoot s _).trans ?_
      split <;> rfl
    rw [hs]
    split
    · exact congrArg some (Slot.setPhase_self _ hphase).symm
    · exact (Move.abandon none hphase).run hd
  case newNode =>
    split at hstep <;> rename_i hok <;> simp only [hok] <;> rw [← Option.some.inj hstep]
    · refine ((Move.create none hphase).run hd).trans (congrArg some ?_)
      rw [length_slot, ← slot_addNode (.vpnConn cfg.address)]
      exact (slot_setBoot { s with nodes := _ } (.store s.nodes.length)).symm
    · refine ((Move.abandon none hphase).run hd).trans (congrArg some ?_)
      exact (slot_setBoot s .done).symm
  case store =>
    rw [← Option.some.inj hstep]
    refine ((Move.store none n hphase).run hd).trans (congrArg some ?_)
    exact (slot_setBoot { s with sender := n } .done).symm
  case done => exact absurd hstep (by simp)

theorem buildStep_simulates {i : ℕ} {ok : Bool} (hd : ¬ s.slot.Doubled)
    (hstep : s.buildStep cfg i ok = some s') :
    (machine (Option ℕ)).run s.slot (s.acts (.party (.build i ok))) = some s'.slot := by
  have hphase : s.slot.phase (some i) = (s.builders i).phase := rfl
  rw [buildStep] at hstep
  rw [acts]
  rcases hpc : s.builders i with _ | _ | _ | _ | n | _ | _ | _ | endpoint | n | _ <;>
    rw [hpc] at hstep hphase <;> dsimp only at hstep ⊢
  case idle => exact absurd hstep (by simp)
  case rebindIsRunning | rebindGetAssignedIP | confIsRunning | confGetAssignedIP =>
    rw [← Option.some.inj hstep, slot_setBuilder, Slot.setPhase_self]
    · rfl
    · rw [hphase]
      split <;> rfl
  case confDialUDP =>
    rw [← Option.some.inj hstep, slot_setBuilder, Slot.setPhase_self]
    · rfl
    · exact hphase
  case readOld =>
    rw [← Option.some.inj hstep, slot_setBuilder]
    exact (Move.read (some i) hphase).run hd
  case closeOld =>
    rw [← Option.some.inj hstep, slot_setBuilder, slot_closeNode]
    exact (Move.close (some i) n hphase).run hd
  case newNode =>
    split at hstep <;> rename_i hok <;> simp only [hok] <;> rw [← Option.some.inj hstep]
    · refine ((Move.create (some i) hphase).run hd).trans (congrArg some ?_)
      rw [length_slot, ← slot_addNode endpoint]
      exact (slot_setBuilder { s with nodes := _ } i (.store s.nodes.length)).symm
    · rw [slot_setBuilder]
      exact (Move.abandon (some i) hphase).run hd
  case store =>
    rw [← Option.some.inj hstep]
    refine ((Move.store (some i) n hphase).run hd).trans (congrArg some ?_)
    exact (slot_setBuilder { s with sender := n } i .signal).symm
  case signal =>
    rw [← Option.some.inj hstep]
    exact congrArg some ((slot_setBuilder s i .idle).trans (Slot.setPhase_self _ hphase)).symm

/-- The replacement of the sender is where it was. -/
structure SameSender (s s' : Uplink) : Prop where
  nodes : s'.nodes = s.nodes
  sender : s'.sender = s.sender
  boot : s'.boot = s.boot
  builders : s'.builders = s.builders
  rebuildCh : s'.rebuildCh = s.rebuildCh
  crashed : s'.crashed = s.crashed

theorem sameSender_writeNode (s : Uplink) (n : ℕ) (frame : UplinkFrame) :
    s.SameSender (s.writeNode n frame) := by
  obtain ⟨_, hw⟩ := @writeNode_eq s n frame
  rw [hw]
  exact ⟨rfl, rfl, rfl, rfl, rfl, rfl⟩

theorem sameSender_keepaliveTick (s : Uplink) (tokenHex : String) (expiresAt : UInt32)
    (connected : Bool) : s.SameSender (s.keepaliveTick cfg tokenHex expiresAt connected) := by
  rw [keepaliveTick]
  split
  · exact ⟨rfl, rfl, rfl, rfl, rfl, rfl⟩
  · split <;> exact ⟨rfl, rfl, rfl, rfl, rfl, rfl⟩

theorem sameSender_forwardStep (hstep : s.forwardStep = some s') : s.SameSender s' := by
  rw [forwardStep] at hstep
  split at hstep
  case h_1 => exact absurd hstep (by simp)
  case h_2 | h_3 =>
    rw [← Option.some.inj hstep]
    exact ⟨rfl, rfl, rfl, rfl, rfl, rfl⟩
  case h_4 raw n _ =>
    rw [← Option.some.inj hstep]
    obtain ⟨h₁, h₂, h₃, h₄, h₅, h₆⟩ := s.sameSender_writeNode n (.px4 raw)
    exact ⟨h₁, h₂, h₃, h₄, h₅, h₆⟩

/-- What a party can do to the replacement of the sender: take a step of a replacement, begin one,
or leave it alone. -/
theorem partyStep_cases {e : PartyEvent} (hstep : s.partyStep cfg e = some s') :
    (∃ i ok, e = .build i ok ∧ s.buildStep cfg i ok = some s') ∨
      (∀ i ok, e ≠ .build i ok) ∧
        ((∃ i pc, s.builders i = .idle ∧ pc.phase = .out ∧ pc ≠ .signal ∧
          s' = s.setBuilder i pc) ∨ s.SameSender s') := by
  rcases e with i | i | ⟨i, ok⟩ | ⟨raw, deliver⟩ | _ | ⟨tokenHex, expiresAt, connected⟩ | _ |
    ⟨i, raw⟩ | i <;> dsimp only [Uplink.partyStep] at hstep
  case build => exact .inl ⟨i, ok, rfl, hstep⟩
  all_goals refine .inr ⟨by simp, ?_⟩
  case rebindUplink | rebuildSender =>
    obtain ⟨hidle, hs⟩ := Option.ite_none_right_eq_some.mp hstep
    exact .inl ⟨i, _, hidle, rfl, by simp, (Option.some.inj hs).symm⟩
  case frame | publish =>
    obtain ⟨-, hs⟩ := Option.ite_none_right_eq_some.mp hstep
    rw [← Option.some.inj hs]
    exact .inr ⟨rfl, rfl, rfl, rfl, rfl, rfl⟩
  case forward => exact .inr (sameSender_forwardStep hstep)
  case tick =>
    obtain ⟨-, hs⟩ := Option.ite_none_right_eq_some.mp hstep
    rw [← Option.some.inj hs]
    exact .inr (s.sameSender_keepaliveTick tokenHex expiresAt connected)
  case keepalive =>
    split at hstep
    · exact absurd hstep (by simp)
    case h_2 msg n _ =>
      rw [← Option.some.inj hstep]
      obtain ⟨h₁, h₂, h₃, h₄, h₅, h₆⟩ := s.sameSender_writeNode n (.keepAlive msg)
      exact .inr ⟨h₁, h₂, h₃, h₄, h₅, h₆⟩
  case publishWrite =>
    split at hstep
    · exact absurd hstep (by simp)
    case h_2 raw n _ =>
      rw [← Option.some.inj hstep]
      obtain ⟨h₁, h₂, h₃, h₄, h₅, h₆⟩ := s.sameSender_writeNode n (.generated raw)
      exact .inr ⟨h₁, h₂, h₃, h₄, h₅, h₆⟩

theorem SameSender.slot (h : s.SameSender s') : s'.slot = s.slot := by
  simp only [Uplink.slot, h.nodes, h.sender, h.boot, h.builders]

theorem acts_of_not_build {e : PartyEvent} (h : ∀ i ok, e ≠ .build i ok) :
    s.acts (.party e) = [] := by
  rcases e with i | i | ⟨i, ok⟩ | ⟨raw, deliver⟩ | _ | ⟨tokenHex, expiresAt, connected⟩ | _ |
    ⟨i, raw⟩ | i
  case build => exact absurd rfl (h i ok)
  all_goals rfl

/-- Every step of the uplink is a run of the handover protocol. -/
theorem simulates {e : UplinkEvent} (hd : ¬ s.slot.Doubled)
    (hstep : (uplinkMachine cfg).step s e = some s') :
    (machine (Option ℕ)).run s.slot (s.acts e) = some s'.slot := by
  obtain ⟨-, hcase⟩ := uplinkMachine_step_eq_some.mp hstep
  rcases hcase with ⟨v, rfl, rfl⟩ | ⟨ok, rfl, hboot⟩ | ⟨p, rfl, -, hparty⟩
  · rfl
  · exact bootStep_simulates hd hboot
  · rcases partyStep_cases hparty with ⟨i, ok, rfl, hbuild⟩ | ⟨hnot, hcase⟩
    · exact buildStep_simulates hd hbuild
    · rw [acts_of_not_build hnot]
      rcases hcase with ⟨i, pc, hidle, hpc, -, rfl⟩ | hsame
      · rw [slot_setBuilder, hpc, Slot.setPhase_self]
        · rfl
        · exact congrArg BuildPc.phase hidle
      · rw [hsame.slot]
        rfl

/-! ## The invariant -/

/-- The replacement of the sender in every reachable state. -/
structure OwnInv (s : Uplink) : Prop where
  coherent : Coherent s.slot
  /-- The program has panicked just when some node was closed twice. -/
  crashed : s.crashed = true ↔ s.slot.Doubled
  /-- Nobody replaces the sender before `NewWithVPN` has returned. -/
  idle : s.boot ≠ .done → ∀ i, s.builders i = .idle
  /-- Until `NewWithVPN` closes it, the sender that `New` made is open. -/
  fresh : s.boot.early = true → s.Open s.sender

theorem ownInv_new (cfg : UplinkConf) (vpn : Manager) : (new cfg vpn).OwnInv where
  coherent := by
    have hinv : Inv (new cfg vpn).slot := by
      apply inv_init
      · rfl
      · rfl
      · intro a
        rcases a with _ | i <;> rfl
    exact ⟨hinv.unique, fun _ ↦ hinv⟩
  crashed := by simp [doubled_slot, new]
  idle _ _ := rfl
  fresh _ := ⟨_, rfl, rfl⟩

/-- What a step does to the nodes: it closes one, adds an open one, or leaves them. -/
inductive NodeStep (s s' : Uplink) : Prop
  | close (n : ℕ) (hn : n = s.sender ∨ ∃ i, s.builders i = .closeOld n)
      (hnodes : s'.nodes = (s.closeNode n).nodes) (hcr : s'.crashed = (s.closeNode n).crashed)
  | add (endpoint : SenderEndpoint) (hnodes : s'.nodes = s.nodes ++ [⟨endpoint, 0⟩])
      (hcr : s'.crashed = s.crashed)
  | keep (hnodes : s'.nodes = s.nodes) (hcr : s'.crashed = s.crashed)

theorem bootStep_nodes {ok : Bool} (hstep : s.bootStep cfg ok = some s') : s.NodeStep s' := by
  rw [bootStep] at hstep
  split at hstep
  case h_3 => exact Option.some.inj hstep ▸ .close s.sender (.inl rfl) rfl rfl
  case h_5 =>
    split at hstep
    · exact Option.some.inj hstep ▸ .add (.vpnConn cfg.address) rfl rfl
    · exact Option.some.inj hstep ▸ .keep rfl rfl
  case h_7 => exact absurd hstep (by simp)
  all_goals exact Option.some.inj hstep ▸ .keep rfl rfl

theorem buildStep_nodes {i : ℕ} {ok : Bool} (hstep : s.buildStep cfg i ok = some s') :
    s.NodeStep s' := by
  rw [buildStep] at hstep
  split at hstep
  case h_1 => exact absurd hstep (by simp)
  case h_5 n hpc => exact Option.some.inj hstep ▸ .close n (.inr ⟨i, hpc⟩) rfl rfl
  case h_9 endpoint _ =>
    split at hstep
    · exact Option.some.inj hstep ▸ .add endpoint rfl rfl
    · exact Option.some.inj hstep ▸ .keep rfl rfl
  all_goals exact Option.some.inj hstep ▸ .keep rfl rfl

theorem step_nodes {e : UplinkEvent} (hstep : (uplinkMachine cfg).step s e = some s') :
    s.NodeStep s' := by
  obtain ⟨-, hcase⟩ := uplinkMachine_step_eq_some.mp hstep
  rcases hcase with ⟨v, rfl, rfl⟩ | ⟨ok, rfl, hboot⟩ | ⟨p, rfl, -, hparty⟩
  · exact .keep rfl rfl
  · exact bootStep_nodes hboot
  · rcases partyStep_cases hparty with ⟨i, ok, rfl, hbuild⟩ | ⟨-, ⟨i, pc, -, -, -, rfl⟩ | hsame⟩
    · exact buildStep_nodes hbuild
    · exact .keep rfl rfl
    · exact .keep hsame.nodes hsame.crashed

theorem crashed_closeNode {n : ℕ} (hcr : s.crashed = false) (hlt : n < s.nodes.length) :
    (s.closeNode n).crashed = true ↔ ¬ s.Open n := by
  have hget : s.nodes[n]? = some s.nodes[n] := List.getElem?_eq_getElem hlt
  rw [closeNode, Open, hget]
  simp [hcr, Nat.pos_iff_ne_zero]

theorem OwnInv.crashed_step (h : s.OwnInv) (hcr : s.crashed = false) (hnodes : s.NodeStep s') :
    s'.crashed = true ↔ s'.slot.Doubled := by
  have hd : ¬ s.slot.Doubled := h.crashed.not.mp (by simp [hcr])
  have hinv := h.coherent.inv hd
  rcases hnodes with ⟨n, hn, hnodes, hcr'⟩ | ⟨endpoint, hnodes, hcr'⟩ | ⟨hnodes, hcr'⟩
  case close =>
    have hlt : n < s.nodes.length := by
      rw [← length_slot]
      rcases hn with rfl | ⟨i, hi⟩
      · exact hinv.current_lt
      · exact hinv.closing_lt (some i) n (congrArg BuildPc.phase hi)
    rw [hcr', crashed_closeNode hcr hlt, doubled_slot, hnodes, ← doubled_slot, slot_closeNode,
      doubled_close hd (by rwa [length_slot]), open_slot]
  case add =>
    rw [hcr', h.crashed, doubled_slot, doubled_slot, hnodes]
    simp
  case keep => rw [hcr', h.crashed, doubled_slot, doubled_slot, hnodes]

theorem bootStep_early {ok : Bool} (hstep : s.bootStep cfg ok = some s') :
    s'.builders = s.builders ∧ s.boot ≠ .done ∧
      (s'.boot.early = true → s.boot.early = true ∧ s'.nodes = s.nodes ∧ s'.sender = s.sender) := by
  rw [bootStep] at hstep
  grind [BootPc.early, closeNode]

theorem OwnInv.step (h : s.OwnInv) {e : UplinkEvent}
    (hstep : (uplinkMachine cfg).step s e = some s') : s'.OwnInv := by
  have hcr : s.crashed = false := (uplinkMachine_step_eq_some.mp hstep).1
  have hd : ¬ s.slot.Doubled := h.crashed.not.mp (by simp [hcr])
  refine ⟨h.coherent.run (simulates hd hstep), h.crashed_step hcr (step_nodes hstep), ?_, ?_⟩
  all_goals
    obtain ⟨-, hcase⟩ := uplinkMachine_step_eq_some.mp hstep
    rcases hcase with ⟨v, rfl, rfl⟩ | ⟨ok, rfl, hboot⟩ | ⟨p, rfl, hdone, hparty⟩
  · exact h.idle
  · obtain ⟨hbuilders, hnot, -⟩ := bootStep_early hboot
    intro _
    rw [hbuilders]
    exact h.idle hnot
  · intro hnot
    exact absurd ((partyStep_boot hparty).trans hdone) hnot
  · exact h.fresh
  · intro hearly
    obtain ⟨hold, hnodes, hsender⟩ := (bootStep_early hboot).2.2 hearly
    rw [Open, hnodes, hsender]
    exact h.fresh hold
  · intro hearly
    rw [partyStep_boot hparty, hdone] at hearly
    exact absurd hearly (by decide)

theorem ownInv_of_run {vpn : Manager} {es : List UplinkEvent}
    (hrun : (uplinkMachine cfg).run (.new cfg vpn) es = some s) : s.OwnInv :=
  Machine.invariant (fun _ _ _ h hstep ↦ h.step hstep) (ownInv_new cfg vpn) hrun

/-! ## Ownership along a run -/

theorem closing_slot {a : Option ℕ} {n : ℕ} :
    s.slot.phase a = .closing n ↔ ∃ i, a = some i ∧ s.builders i = .closeOld n := by
  rcases a with _ | i
  · rcases hpc : s.boot <;> simp [slot, BootPc.phase, hpc]
  · rcases hpc : s.builders i <;> simp [slot, BuildPc.phase, hpc]

theorem owns_read {a : Option ℕ} :
    s.slot.Owns (.read a) ↔ s.Open s.sender ∧ ∀ j, s.builders j ≠ .closeOld s.sender := by
  have hfree : (∀ b, s.slot.phase b ≠ .closing s.sender) ↔
      ∀ j, s.builders j ≠ .closeOld s.sender := by
    constructor
    · intro h j hj
      exact h (some j) (closing_slot.mpr ⟨j, rfl, hj⟩)
    · intro h b hb
      obtain ⟨j, -, hj⟩ := closing_slot.mp hb
      exact h j hj
  exact and_congr open_slot hfree

/-- The condition of the protocol is the one on the uplink: `NewWithVPN` always owns the sender it
closes. -/
theorem OwnInv.along_acts (h : s.OwnInv) (e : UplinkEvent) :
    (machine (Option ℕ)).Along Slot.Owns s.slot (s.acts e) ↔ s.Owns e := by
  rcases e with v | ok | p
  · exact iff_of_true trivial trivial
  · refine iff_of_true ?_ trivial
    rw [acts]
    rcases hpc : s.boot with _ | _ | _ | _ | _ | n | _ <;> dsimp only
    case close =>
      have hidle := h.idle (by simp [hpc])
      refine ⟨owns_read.mpr ⟨h.fresh (by rw [hpc]; rfl), fun j ↦ by simp [hidle j]⟩, fun _ _ ↦ ?_⟩
      exact Machine.along_singleton.mpr trivial
    case dialUDP | newNode =>
      split
      all_goals first | exact trivial | exact Machine.along_singleton.mpr trivial
    case store => exact Machine.along_singleton.mpr trivial
    all_goals exact trivial
  · by_cases hbuild : ∃ i ok, p = .build i ok
    · obtain ⟨i, ok, rfl⟩ := hbuild
      rw [acts, Owns]
      rcases hpc : s.builders i with _ | _ | _ | _ | n | _ | _ | _ | endpoint | n | _ <;> dsimp only
      case readOld => simp [owns_read]
      case newNode =>
        refine iff_of_true ?_ (by simp)
        split <;> exact Machine.along_singleton.mpr trivial
      case closeOld | store => exact iff_of_true (Machine.along_singleton.mpr trivial) (by simp)
      all_goals exact iff_of_true trivial (by simp)
    · have hnot : ∀ i ok, p ≠ .build i ok := fun i ok hp ↦ hbuild ⟨i, ok, hp⟩
      rw [acts_of_not_build hnot]
      refine iff_of_true trivial ?_
      rcases p with i | i | ⟨i, ok⟩ | ⟨raw, deliver⟩ | _ | ⟨tokenHex, expiresAt, connected⟩ | _ |
        ⟨i, raw⟩ | i
      case build => exact absurd rfl (hnot i ok)
      all_goals exact trivial

theorem OwnInv.safe_run (h : s.OwnInv) {es : List UplinkEvent}
    (hrun : (uplinkMachine cfg).run s es = some s') :
    s'.slot.Safe ↔ s.slot.Safe ∧ (uplinkMachine cfg).Along Owns s es := by
  induction es generalizing s with
  | nil =>
    rw [Machine.run_nil, Option.some.injEq] at hrun
    simp [hrun]
  | cons e es ih =>
    obtain ⟨m, hm, hes⟩ := Machine.run_cons_eq_some.mp hrun
    have hcr : s.crashed = false := (uplinkMachine_step_eq_some.mp hm).1
    have hd : ¬ s.slot.Doubled := h.crashed.not.mp (by simp [hcr])
    rw [Machine.along_cons hm, ih (h.step hm) hes, h.coherent.safe_run (simulates hd hm),
      h.along_acts, and_assoc]

theorem safe_new (cfg : UplinkConf) (vpn : Manager) : (new cfg vpn).slot.Safe := by
  have hout : ∀ a n, (new cfg vpn).slot.phase a ≠ .closing n := by
    intro a n ha
    obtain ⟨i, -, hi⟩ := closing_slot.mp ha
    exact absurd hi (by simp [new])
  exact ⟨by simp [doubled_slot, new], fun a n ha ↦ absurd ha (hout a n),
    fun a b n ha ↦ absurd ha (hout a n)⟩

/-! ## A close that is bound to panic -/

variable (cfg) in
theorem OwnInv.close_step (h : s.OwnInv) (hd : ¬ s.slot.Doubled) {i n : ℕ}
    (hi : s.builders i = .closeOld n) :
    ∃ t, (uplinkMachine cfg).step s (.party (.build i true)) = some t ∧
      t.slot = (s.slot.close n).setPhase (some i) .building := by
  have hcr : s.crashed = false := Bool.not_eq_true _ ▸ h.crashed.not.mpr hd
  have hdone : s.boot = .done := by
    by_contra hnot
    exact absurd (h.idle hnot i) (by simp [hi])
  have hstep : s.partyStep cfg (.build i true) =
      some ((s.closeNode n).setBuilder i .confIsRunning) := by
    rw [partyStep, buildStep, hi]
  exact ⟨_, party_step hcr hdone hstep, by rw [slot_setBuilder, slot_closeNode]; rfl⟩

variable (cfg) in
/-- One close is enough when the node it is for is not open. -/
theorem OwnInv.doubled_of_close (h : s.OwnInv) (hd : ¬ s.slot.Doubled) {i n : ℕ}
    (hi : s.builders i = .closeOld n) (hn : ¬ s.Open n) :
    ∃ t, (uplinkMachine cfg).step s (.party (.build i true)) = some t ∧ t.slot.Doubled := by
  obtain ⟨t, ht, hslot⟩ := h.close_step cfg hd hi
  have hlt := (h.coherent.inv hd).closing_lt (some i) n (closing_slot.mpr ⟨i, rfl, hi⟩)
  refine ⟨t, ht, ?_⟩
  rw [hslot]
  exact (doubled_close hd hlt).mpr (open_slot.not.mpr hn)

variable (cfg) in
/-- Two closes are enough when two builders are about to close the same node. -/
theorem OwnInv.doubled_of_two (h : s.OwnInv) (hd : ¬ s.slot.Doubled) {i j n : ℕ} (hij : i ≠ j)
    (hi : s.builders i = .closeOld n) (hj : s.builders j = .closeOld n) (hn : s.Open n) :
    ∃ t, (uplinkMachine cfg).run s [.party (.build i true), .party (.build j true)] = some t ∧
      t.slot.Doubled := by
  obtain ⟨m, hm, hslot⟩ := h.close_step cfg hd hi
  have hlt := (h.coherent.inv hd).closing_lt (some i) n (closing_slot.mpr ⟨i, rfl, hi⟩)
  have hmd : ¬ m.slot.Doubled := by
    rw [hslot]
    exact fun hdd ↦ (doubled_close hd hlt).mp hdd (open_slot.mpr hn)
  have hmj : m.builders j = .closeOld n := by
    have hphase : m.slot.phase (some j) = .closing n := by
      rw [hslot, Slot.setPhase_phase, if_neg (by simpa using hij.symm)]
      exact closing_slot.mpr ⟨j, rfl, hj⟩
    obtain ⟨k, hk, hmk⟩ := closing_slot.mp hphase
    rwa [Option.some.inj hk]
  have hmn : ¬ m.Open n := by
    rw [← open_slot, hslot]
    simp
  obtain ⟨t, ht, htd⟩ := (h.step hm).doubled_of_close cfg hmd hmj hmn
  exact ⟨t, Machine.run_cons_eq_some.mpr ⟨m, hm, Machine.run_cons_eq_some.mpr ⟨t, ht, rfl⟩⟩, htd⟩

variable (cfg) in
theorem OwnInv.exists_doubled (h : s.OwnInv) (hsafe : ¬ s.slot.Safe) :
    ∃ fs t, (uplinkMachine cfg).run s fs = some t ∧ t.slot.Doubled := by
  by_cases hd : s.slot.Doubled
  · exact ⟨[], s, rfl, hd⟩
  by_cases hopen : ∃ i n, s.builders i = .closeOld n ∧ ¬ s.Open n
  · obtain ⟨i, n, hi, hn⟩ := hopen
    obtain ⟨t, ht, htd⟩ := h.doubled_of_close cfg hd hi hn
    exact ⟨[_], t, Machine.run_cons_eq_some.mpr ⟨t, ht, rfl⟩, htd⟩
  · have hopen' : ∀ i n, s.builders i = .closeOld n → s.Open n := fun i n hi ↦
      not_not.mp fun hn ↦ hopen ⟨i, n, hi, hn⟩
    by_contra hnone
    refine hsafe ⟨hd, fun a n ha ↦ ?_, fun a b n ha hb ↦ ?_⟩
    · obtain ⟨i, -, hi⟩ := closing_slot.mp ha
      exact open_slot.mpr (hopen' i n hi)
    · obtain ⟨i, rfl, hi⟩ := closing_slot.mp ha
      obtain ⟨j, rfl, hj⟩ := closing_slot.mp hb
      by_contra hij
      obtain ⟨t, ht⟩ := h.doubled_of_two cfg hd (by simpa using hij) hi hj (hopen' i n hi)
      exact hnone ⟨_, t, ht⟩

end Uplink

/-- **Ownership of the sender node.** At most one sender node is open. As long as each replacement
reads the pointer to an open node that no other is about to close, no node is closed twice; once one
does not, some continuation closes a node twice. -/
theorem sender_node_ownership {cfg : UplinkConf} {vpn : Manager} {es : List UplinkEvent}
    {s : Uplink} (hrun : (uplinkMachine cfg).run (.new cfg vpn) es = some s) :
    (∀ m n, s.Open m → s.Open n → m = n) ∧
    ((uplinkMachine cfg).Along Uplink.Owns (.new cfg vpn) es →
      ∀ node ∈ s.nodes, node.closes ≤ 1) ∧
    (¬ (uplinkMachine cfg).Along Uplink.Owns (.new cfg vpn) es →
      ∃ fs t, (uplinkMachine cfg).run s fs = some t ∧ ∃ node ∈ t.nodes, 1 < node.closes) := by
  have hinv := Uplink.ownInv_of_run hrun
  have hsafe := (Uplink.ownInv_new cfg vpn).safe_run hrun
  rw [and_iff_right (Uplink.safe_new cfg vpn)] at hsafe
  refine ⟨fun m n hm hn ↦ ?_, fun howns node hnode ↦ ?_, fun hnot ↦ ?_⟩
  · exact hinv.coherent.unique m n (Uplink.open_slot.mpr hm) (Uplink.open_slot.mpr hn)
  · by_contra hlt
    exact (hsafe.mpr howns).once (Uplink.doubled_slot.mpr ⟨node, hnode, by omega⟩)
  · obtain ⟨fs, t, ht, hdd⟩ := hinv.exists_doubled cfg (hsafe.not.mpr hnot)
    exact ⟨fs, t, ht, Uplink.doubled_slot.mp hdd⟩

/-- The tunnel is down at the start, and the IP monitor then binds the sender: one node is closed,
its successor is the only one open. -/
theorem sender_node_ownership_rebuild :
    ∃ s, (uplinkMachine ⟨"server:14550", false⟩).run
        (.new ⟨"server:14550", false⟩ ⟨none, none, false⟩)
        [.boot true, .party (.rebuildSender 0), .party (.build 0 true), .party (.build 0 true),
          .party (.build 0 true), .party (.build 0 true), .party (.build 0 true)] = some s ∧
      s.nodes = [⟨.udpClient "server:14550", 1⟩, ⟨.udpClient "server:14550", 0⟩] ∧
      ∀ m n, s.Open m → s.Open n → m = n := by
  have hrun : (uplinkMachine ⟨"server:14550", false⟩).run
      (.new ⟨"server:14550", false⟩ ⟨none, none, false⟩)
      [.boot true, .party (.rebuildSender 0), .party (.build 0 true), .party (.build 0 true),
        .party (.build 0 true), .party (.build 0 true), .party (.build 0 true)] = some _ := rfl
  exact ⟨_, hrun, rfl, (sender_node_ownership hrun).1⟩

/-- `NewWithVPN` cannot dial through the tunnel and keeps the closed sender, which the IP monitor
closes again. And `RebindUplink` and `rebuildSender` read the pointer before either of them closes
the node. -/
theorem sender_node_closed_twice :
    (∃ s, (uplinkMachine ⟨"server:14550", false⟩).run
        (.new ⟨"server:14550", false⟩ ⟨some ⟨"10.8.0.2/24"⟩, none, true⟩)
        [.boot true, .boot true, .boot true, .boot false, .party (.rebuildSender 0),
          .party (.build 0 true), .party (.build 0 true)] = some s ∧
      s.nodes = [⟨.udpClient "server:14550", 2⟩] ∧ s.crashed = true) ∧
    ∃ s, (uplinkMachine ⟨"server:14550", false⟩).run
        (.new ⟨"server:14550", false⟩ ⟨some ⟨"10.8.0.2/24"⟩, none, false⟩)
        [.boot true, .vpn (.start true), .party (.rebuildSender 0), .party (.rebindUplink 1),
          .party (.build 1 true), .party (.build 1 true), .party (.build 0 true),
          .party (.build 1 true), .party (.build 0 true), .party (.build 1 true)] = some s ∧
      s.nodes = [⟨.udpClient "server:14550", 2⟩] ∧ s.crashed = true :=
  ⟨⟨_, rfl, rfl, rfl⟩, ⟨_, rfl, rfl, rfl⟩⟩

end DroneBridge
