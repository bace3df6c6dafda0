import DroneBridge.Uplink.Sender

/-!
# Frames stay in the tunnel

With VPN enabled, what goes through the sender is meant for the WireGuard tunnel only. The code
checks that the tunnel is ready in one place, chooses the endpoint of a node in another, and uses
the node in a third. The three drift apart: a node built while the tunnel was not ready has a plain
UDP endpoint, it stays the sender when the tunnel comes up later, and the keepalive asks for no
tunnel at all.

What decides is the moment an endpoint is chosen. `keepsTunnel` says of a step that it does not
settle for a plain endpoint: `NewWithVPN` finds the tunnel running with an address, and
`getEndpointConf` finds it running, with an address, and dials successfully. Along runs of such
steps every node that is still open has an endpoint dialled by the VPN manager (`Contained`), so
every frame goes through the tunnel; and from the first step that is not, the session token is two
keepalive steps away from a plain socket.
-/

namespace DroneBridge

/-! ## The steps that choose an endpoint -/

/-- `NewWithVPN` does not leave the plain sender in place. -/
def Uplink.bootKeepsTunnel (s : Uplink) : Bool :=
  match s.boot with
  | .isRunning => s.vpn.isRunning
  | .getAssignedIP => s.vpn.getAssignedIP ≠ ""
  | _ => true

/-- `getEndpointConf` does not fall back to a plain endpoint. -/
def Uplink.buildKeepsTunnel (s : Uplink) (i : ℕ) (ok : Bool) : Bool :=
  match s.builders i with
  | .confIsRunning => s.vpn.isRunning
  | .confGetAssignedIP => s.vpn.getAssignedIP ≠ ""
  | .confDialUDP => s.vpn.dialUDP ok
  | _ => true

/-- The step does not settle for a plain endpoint. -/
def Uplink.keepsTunnel (s : Uplink) : UplinkEvent → Bool
  | .boot _ => s.bootKeepsTunnel
  | .party (.build i ok) => s.buildKeepsTunnel i ok
  | _ => true

/-! ## What holds while they do -/

/-- `NewWithVPN` has not come to close the plain sender yet. -/
def BootPc.early : BootPc → Bool
  | .isRunning | .getAssignedIP | .close => true
  | _ => false

/-- Its endpoint was dialled by the VPN manager, or the node is closed. -/
def SenderNode.Contained (node : SenderNode) : Prop :=
  node.endpoint.isVpn = true ∨ 0 < node.closes

namespace Uplink

/-- No node writes outside the tunnel, none that would is being built, and nothing was written
outside it. -/
structure Contained (s : Uplink) : Prop where
  nodes : ∀ node ∈ s.nodes, node.Contained
  pending : ∀ i endpoint, s.builders i = .newNode endpoint → endpoint.isVpn = true
  sent : ∀ w ∈ s.sent, w.2.isVpn = true

/-- As `New` left it: the plain sender is open, and no party has moved. -/
structure Untouched (cfg : UplinkConf) (s : Uplink) : Prop where
  nodes : s.nodes = [⟨.udpClient cfg.address, 0⟩]
  sender : s.sender = 0
  builders : ∀ i, s.builders i = .idle
  keepalive : s.keepalive = .idle
  crashed : s.crashed = false
  sent : s.sent = []

/-- The invariant of runs that keep to the tunnel. -/
structure TunnelInv (cfg : UplinkConf) (s : Uplink) : Prop where
  untouched : s.boot.early = true → s.Untouched cfg
  contained : s.boot.early = false → s.Contained

theorem untouched_new (cfg : UplinkConf) (vpn : Manager) : (new cfg vpn).Untouched cfg :=
  ⟨rfl, rfl, fun _ ↦ rfl, rfl, rfl, rfl⟩

variable {s s' : Uplink} {cfg : UplinkConf}

/-! ### Operations on nodes -/

theorem Contained.closeNode (h : s.Contained) (n : ℕ) : (s.closeNode n).Contained := by
  rw [Uplink.closeNode]
  split
  case h_1 => exact h
  case h_2 node _ =>
    refine ⟨fun m hm ↦ ?_, h.pending, h.sent⟩
    rcases List.mem_or_eq_of_mem_set hm with hm | rfl
    · exact h.nodes m hm
    · exact .inr (Nat.succ_pos _)

theorem Contained.writeNode (h : s.Contained) (n : ℕ) (frame : UplinkFrame) :
    (s.writeNode n frame).Contained := by
  rw [Uplink.writeNode]
  split
  case h_1 => exact h
  case h_2 node hnode =>
    split
    case isFalse => exact h
    case isTrue hopen =>
      have hvpn : node.endpoint.isVpn = true :=
        (h.nodes node (List.mem_of_getElem? hnode)).resolve_right (by omega)
      refine ⟨h.nodes, h.pending, fun w hw ↦ ?_⟩
      rcases List.mem_append.mp hw with hw | hw
      · exact h.sent w hw
      · rw [List.mem_singleton.mp hw]
        exact hvpn

theorem Contained.addNode (h : s.Contained) {endpoint : SenderEndpoint}
    (hvpn : endpoint.isVpn = true) :
    Contained { s with nodes := s.nodes ++ [⟨endpoint, 0⟩] } := by
  refine ⟨fun node hnode ↦ ?_, h.pending, h.sent⟩
  rcases List.mem_append.mp hnode with hnode | hnode
  · exact h.nodes node hnode
  · rw [List.mem_singleton.mp hnode]
    exact .inl hvpn

theorem Contained.setBuilder (h : s.Contained) (i : ℕ) {pc : BuildPc}
    (hpc : ∀ endpoint, pc = .newNode endpoint → endpoint.isVpn = true) :
    (s.setBuilder i pc).Contained := by
  refine ⟨h.nodes, fun j endpoint hj ↦ ?_, h.sent⟩
  rw [Uplink.setBuilder] at hj
  dsimp only at hj
  split at hj
  · exact hpc endpoint hj
  · exact h.pending j endpoint hj

/-- Writing touches nothing but the record of what was written. -/
theorem writeNode_eq (n : ℕ) (frame : UplinkFrame) :
    ∃ sent, s.writeNode n frame = { s with sent := sent } := by
  rw [Uplink.writeNode]
  split
  · exact ⟨_, rfl⟩
  · split <;> exact ⟨_, rfl⟩

@[simp] theorem writeNode_boot (n : ℕ) (frame : UplinkFrame) :
    (s.writeNode n frame).boot = s.boot := by
  obtain ⟨_, hw⟩ := @writeNode_eq s n frame
  rw [hw]

@[simp] theorem closeNode_boot (n : ℕ) : (s.closeNode n).boot = s.boot := by
  rw [Uplink.closeNode]
  split <;> rfl

@[simp] theorem setBuilder_boot (i : ℕ) (pc : BuildPc) : (s.setBuilder i pc).boot = s.boot := rfl

@[simp] theorem setPublisher_boot (i : ℕ) (pc : WritePc (List UInt8)) :
    (s.setPublisher i pc).boot = s.boot := rfl

/-! ### Steps -/

theorem Contained.buildStep (h : s.Contained) {i : ℕ} {ok : Bool}
    (hkeeps : s.buildKeepsTunnel i ok = true) (hstep : s.buildStep cfg i ok = some s') :
    s'.Contained := by
  rw [buildKeepsTunnel] at hkeeps
  rw [Uplink.buildStep] at hstep
  have hend := h.pending i
  rcases hpc : s.builders i with _ | _ | _ | _ | n | _ | _ | _ | endpoint | n | _ <;>
    rw [hpc] at hkeeps hstep hend <;> dsimp only at hkeeps hstep
  case idle => exact absurd hstep (by simp)
  case rebindIsRunning | rebindGetAssignedIP =>
    rw [← Option.some.inj hstep]
    refine h.setBuilder i fun _ hnew ↦ ?_
    split at hnew <;> exact absurd hnew (by simp)
  case readOld =>
    rw [← Option.some.inj hstep]
    exact h.setBuilder i (by simp)
  case closeOld =>
    rw [← Option.some.inj hstep]
    exact (h.closeNode n).setBuilder i (by simp)
  case confIsRunning =>
    rw [← Option.some.inj hstep, if_pos hkeeps]
    exact h.setBuilder i (by simp)
  case confGetAssignedIP =>
    rw [← Option.some.inj hstep, if_neg (of_decide_eq_true hkeeps)]
    exact h.setBuilder i (by simp)
  case confDialUDP =>
    rw [← Option.some.inj hstep, if_pos hkeeps]
    refine h.setBuilder i fun endpoint hnew ↦ ?_
    rw [← BuildPc.newNode.inj hnew]
    rfl
  case newNode =>
    split at hstep
    · rw [← Option.some.inj hstep]
      exact (h.setBuilder i (by simp)).addNode (hend endpoint rfl)
    · rw [← Option.some.inj hstep]
      exact h.setBuilder i (by simp)
  case store =>
    rw [← Option.some.inj hstep]
    have hset : (s.setBuilder i .signal).Contained := h.setBuilder i (by simp)
    exact ⟨hset.nodes, hset.pending, hset.sent⟩
  case signal =>
    rw [← Option.some.inj hstep]
    have hset : (s.setBuilder i .idle).Contained := h.setBuilder i (by simp)
    exact ⟨hset.nodes, hset.pending, hset.sent⟩

theorem Contained.forwardStep (h : s.Contained) (hstep : s.forwardStep = some s') :
    s'.Contained := by
  rw [Uplink.forwardStep] at hstep
  split at hstep
  case h_1 => exact absurd hstep (by simp)
  case h_2 | h_3 =>
    rw [← Option.some.inj hstep]
    exact ⟨h.nodes, h.pending, h.sent⟩
  case h_4 raw n _ =>
    rw [← Option.some.inj hstep]
    have hwrite := h.writeNode n (.px4 raw)
    exact ⟨hwrite.nodes, hwrite.pending, hwrite.sent⟩

theorem Contained.keepaliveTick (h : s.Contained) (tokenHex : String) (expiresAt : UInt32)
    (connected : Bool) : (s.keepaliveTick cfg tokenHex expiresAt connected).Contained := by
  rw [Uplink.keepaliveTick]
  split
  · exact h
  · split
    · exact ⟨h.nodes, h.pending, h.sent⟩
    · exact h

theorem Contained.partyStep (h : s.Contained) {e : PartyEvent}
    (hkeeps : s.keepsTunnel (.party e) = true) (hstep : s.partyStep cfg e = some s') :
    s'.Contained := by
  rcases e with i | i | ⟨i, ok⟩ | ⟨raw, deliver⟩ | _ | ⟨tokenHex, expiresAt, connected⟩ | _ |
    ⟨i, raw⟩ | i <;> dsimp only [Uplink.partyStep] at hstep
  case rebindUplink | rebuildSender =>
    obtain ⟨-, hs⟩ := Option.ite_none_right_eq_some.mp hstep
    rw [← Option.some.inj hs]
    exact h.setBuilder i (by simp)
  case build => exact h.buildStep hkeeps hstep
  case frame | publish =>
    obtain ⟨-, hs⟩ := Option.ite_none_right_eq_some.mp hstep
    rw [← Option.some.inj hs]
    exact ⟨h.nodes, h.pending, h.sent⟩
  case forward => exact h.forwardStep hstep
  case tick =>
    obtain ⟨-, hs⟩ := Option.ite_none_right_eq_some.mp hstep
    rw [← Option.some.inj hs]
    exact h.keepaliveTick tokenHex expiresAt connected
  case keepalive =>
    split at hstep
    · exact absurd hstep (by simp)
    case h_2 msg n _ =>
      rw [← Option.some.inj hstep]
      have hwrite := h.writeNode n (.keepAlive msg)
      exact ⟨hwrite.nodes, hwrite.pending, hwrite.sent⟩
  case publishWrite =>
    split at hstep
    · exact absurd hstep (by simp)
    case h_2 raw n _ =>
      rw [← Option.some.inj hstep]
      have hwrite := h.writeNode n (.generated raw)
      exact ⟨hwrite.nodes, hwrite.pending, hwrite.sent⟩

theorem buildStep_boot {i : ℕ} {ok : Bool} (hstep : s.buildStep cfg i ok = some s') :
    s'.boot = s.boot := by
  rw [Uplink.buildStep] at hstep
  grind [setBuilder_boot, closeNode_boot]

theorem partyStep_boot {e : PartyEvent} (hstep : s.partyStep cfg e = some s') :
    s'.boot = s.boot := by
  rcases e with i | i | ⟨i, ok⟩ | ⟨raw, deliver⟩ | _ | ⟨tokenHex, expiresAt, connected⟩ | _ |
    ⟨i, raw⟩ | i <;> dsimp only [Uplink.partyStep] at hstep
  case build => exact buildStep_boot hstep
  case forward =>
    rw [Uplink.forwardStep] at hstep
    grind [writeNode_boot]
  case tick =>
    rw [Uplink.keepaliveTick] at hstep
    grind
  case rebindUplink | rebuildSender => grind [setBuilder_boot]
  case frame | keepalive | publish | publishWrite => grind [writeNode_boot, setPublisher_boot]

/-- Once the plain sender is closed, nothing can write outside the tunnel. -/
theorem Untouched.contained_closeNode (h : s.Untouched cfg) :
    (s.closeNode s.sender).Contained := by
  rw [closeNode, h.sender, h.nodes]
  refine ⟨fun node hnode ↦ ?_, fun i endpoint hi ↦ ?_, fun w hw ↦ ?_⟩
  · rw [List.mem_singleton.mp hnode]
    exact .inr Nat.one_pos
  · have hidle : s.builders i = .newNode endpoint := hi
    rw [h.builders i] at hidle
    exact absurd hidle (by simp)
  · have hnil : w ∈ s.sent := hw
    rw [h.sent] at hnil
    exact absurd hnil List.not_mem_nil

theorem TunnelInv.bootStep (h : s.TunnelInv cfg) {ok : Bool} (hkeeps : s.bootKeepsTunnel = true)
    (hstep : s.bootStep cfg ok = some s') : s'.TunnelInv cfg := by
  rw [bootKeepsTunnel] at hkeeps
  rw [Uplink.bootStep] at hstep
  have hearly := h.untouched
  have hlate := h.contained
  rcases hpc : s.boot with _ | _ | _ | _ | _ | n | _ <;>
    rw [hpc] at hkeeps hstep hearly hlate <;> dsimp only at hkeeps hstep
  case isRunning =>
    rw [← Option.some.inj hstep, if_pos hkeeps]
    have hu := hearly rfl
    exact ⟨fun _ ↦ ⟨hu.nodes, hu.sender, hu.builders, hu.keepalive, hu.crashed, hu.sent⟩, nofun⟩
  case getAssignedIP =>
    rw [← Option.some.inj hstep, if_neg (of_decide_eq_true hkeeps)]
    have hu := hearly rfl
    exact ⟨fun _ ↦ ⟨hu.nodes, hu.sender, hu.builders, hu.keepalive, hu.crashed, hu.sent⟩, nofun⟩
  case close =>
    rw [← Option.some.inj hstep]
    have hc := (hearly rfl).contained_closeNode
    exact ⟨nofun, fun _ ↦ ⟨hc.nodes, hc.pending, hc.sent⟩⟩
  case dialUDP =>
    rw [← Option.some.inj hstep]
    have hc := hlate rfl
    refine ⟨fun he ↦ ?_, fun _ ↦ ⟨hc.nodes, hc.pending, hc.sent⟩⟩
    dsimp only at he
    split at he <;> exact absurd he (by decide)
  case newNode =>
    have hc := hlate rfl
    split at hstep <;> rw [← Option.some.inj hstep]
    · have hvpn : (SenderEndpoint.vpnConn cfg.address).isVpn = true := rfl
      have hadd := hc.addNode hvpn
      exact ⟨nofun, fun _ ↦ ⟨hadd.nodes, hadd.pending, hadd.sent⟩⟩
    · exact ⟨nofun, fun _ ↦ ⟨hc.nodes, hc.pending, hc.sent⟩⟩
  case store =>
    rw [← Option.some.inj hstep]
    have hc := hlate rfl
    exact ⟨nofun, fun _ ↦ ⟨hc.nodes, hc.pending, hc.sent⟩⟩
  case done => exact absurd hstep (by simp)

end Uplink

/-! ## Runs -/

section Run

variable {cfg : UplinkConf} {s s' : Uplink}

theorem uplinkMachine_step_eq_some {e : UplinkEvent} :
    (uplinkMachine cfg).step s e = some s' ↔
      s.crashed = false ∧
        ((∃ v, e = .vpn v ∧ { s with vpn := s.vpn.apply v } = s') ∨
          (∃ ok, e = .boot ok ∧ s.bootStep cfg ok = some s') ∨
          ∃ p, e = .party p ∧ s.boot = .done ∧ s.partyStep cfg p = some s') := by
  rw [uplinkMachine]
  dsimp only
  by_cases hcr : s.crashed = true
  · simp [hcr]
  · rw [if_neg hcr, Bool.not_eq_true] at *
    rcases e with v | ok | p <;> simp [hcr]

/-- One step that keeps to the tunnel preserves the invariant. -/
theorem Uplink.TunnelInv.step (h : s.TunnelInv cfg) {e : UplinkEvent}
    (hkeeps : s.keepsTunnel e = true) (hstep : (uplinkMachine cfg).step s e = some s') :
    s'.TunnelInv cfg := by
  obtain ⟨-, hcase⟩ := uplinkMachine_step_eq_some.mp hstep
  rcases hcase with ⟨v, rfl, rfl⟩ | ⟨ok, rfl, hboot⟩ | ⟨p, rfl, hdone, hparty⟩
  · refine ⟨fun he ↦ ?_, fun he ↦ ?_⟩
    · have hu := h.untouched he
      exact ⟨hu.nodes, hu.sender, hu.builders, hu.keepalive, hu.crashed, hu.sent⟩
    · have hc := h.contained he
      exact ⟨hc.nodes, hc.pending, hc.sent⟩
  · exact h.bootStep hkeeps hboot
  · have hc : s.Contained := h.contained (by rw [hdone]; rfl)
    have hboot : s'.boot = .done := (Uplink.partyStep_boot hparty).trans hdone
    have hlate : s'.boot.early = false := by rw [hboot]; rfl
    refine ⟨fun he ↦ absurd he (by rw [hlate]; decide), fun _ ↦ hc.partyStep hkeeps hparty⟩

theorem Uplink.tunnelInv_of_run {vpn : Manager} {es : List UplinkEvent}
    (hkeeps : (uplinkMachine cfg).Along (fun s e ↦ s.keepsTunnel e = true) (.new cfg vpn) es)
    (hrun : (uplinkMachine cfg).run (.new cfg vpn) es = some s) : s.TunnelInv cfg := by
  have h₀ : (Uplink.new cfg vpn).TunnelInv cfg := ⟨fun _ ↦ untouched_new cfg vpn, nofun⟩
  exact Machine.invariant_along (fun _ _ _ h hP hstep ↦ h.step hP hstep) h₀ hkeeps hrun

end Run

/-! ## Leaving the tunnel

A step that settles for a plain endpoint makes the next keepalive carry the session token outside
the tunnel. -/

section Leak

variable {cfg : UplinkConf} {s s' : Uplink} {token : List UInt8}

/-- The sender is an open node with a plain endpoint. -/
structure Uplink.Exposed (cfg : UplinkConf) (s : Uplink) : Prop where
  crashed : s.crashed = false
  boot : s.boot = .done
  sender : s.nodes[s.sender]? = some ⟨.udpClient cfg.address, 0⟩

/-- Some run, all of whose steps keep to the tunnel, writes the session token to a plain
endpoint. -/
def Uplink.Leaks (cfg : UplinkConf) (token : List UInt8) (s : Uplink) : Prop :=
  ∃ fs t sequence, (uplinkMachine cfg).run s fs = some t ∧
    (uplinkMachine cfg).Along (fun s e ↦ s.keepsTunnel e = true) s fs ∧
    (.keepAlive (sessionKeepAlive cfg.shifted token 0 sequence false), .udpClient cfg.address) ∈
      t.sent

theorem Uplink.Leaks.of_step {e : UplinkEvent} (hstep : (uplinkMachine cfg).step s e = some s')
    (hkeeps : s.keepsTunnel e = true) (h : s'.Leaks cfg token) : s.Leaks cfg token := by
  obtain ⟨fs, t, sequence, hrun, halong, hsent⟩ := h
  exact ⟨e :: fs, t, sequence, Machine.run_cons_eq_some.mpr ⟨s', hstep, hrun⟩,
    (Machine.along_cons hstep).mpr ⟨hkeeps, halong⟩, hsent⟩

theorem Uplink.party_step (hcr : s.crashed = false) (hdone : s.boot = .done) {p : PartyEvent}
    (hstep : s.partyStep cfg p = some s') : (uplinkMachine cfg).step s (.party p) = some s' :=
  uplinkMachine_step_eq_some.mpr ⟨hcr, .inr (.inr ⟨p, rfl, hdone, hstep⟩)⟩

theorem Uplink.Exposed.leaks_of_write (h : s.Exposed cfg) {sequence : UInt16}
    (hka : s.keepalive =
      .write (sessionKeepAlive cfg.shifted token 0 sequence false) s.sender) :
    s.Leaks cfg token := by
  have hstep : s.partyStep cfg .keepalive = some
      { s with
        sent := s.sent ++ [(.keepAlive (sessionKeepAlive cfg.shifted token 0 sequence false),
          .udpClient cfg.address)]
        keepalive := .idle } := by
    rw [partyStep, hka]
    dsimp only
    rw [writeNode, h.sender]
    rfl
  refine .of_step (party_step h.crashed h.boot hstep) rfl ?_
  exact ⟨[], _, sequence, rfl, trivial, List.mem_append_right _ List.mem_cons_self⟩

variable {tokenHex : String}

theorem Uplink.Exposed.leaks_of_idle (h : s.Exposed cfg) (hidle : s.keepalive = .idle)
    (htoken : hexDecode tokenHex.toList = some token) (hlen : token.length = 32) :
    s.Leaks cfg token := by
  have hstep : s.partyStep cfg (.tick tokenHex 0 false) = some
      { s with
        keepalive := .write (sessionKeepAlive cfg.shifted token 0 s.sequence false) s.sender
        sequence := s.sequence + 1 } := by
    rw [partyStep, if_pos hidle, keepaliveTick, htoken]
    dsimp only
    rw [if_pos hlen]
  refine .of_step (party_step h.crashed h.boot hstep) rfl ?_
  exact Exposed.leaks_of_write ⟨h.crashed, h.boot, h.sender⟩ rfl

theorem Uplink.Exposed.leaks (h : s.Exposed cfg)
    (htoken : hexDecode tokenHex.toList = some token) (hlen : token.length = 32) :
    s.Leaks cfg token := by
  rcases hka : s.keepalive with _ | ⟨msg, n⟩
  · exact h.leaks_of_idle hka htoken hlen
  · -- A write still under way ends first; it leaves the sender as it is.
    obtain ⟨sent, hsent⟩ := @writeNode_eq s n (.keepAlive msg)
    have hstep : s.partyStep cfg .keepalive = some { s with sent := sent, keepalive := .idle } := by
      rw [partyStep, hka]
      dsimp only
      rw [hsent]
    refine .of_step (party_step h.crashed h.boot hstep) rfl ?_
    exact Exposed.leaks_of_idle ⟨h.crashed, h.boot, h.sender⟩ rfl htoken hlen

theorem Uplink.leaks_of_store (hcr : s.crashed = false) (hdone : s.boot = .done) {i n : ℕ}
    (hi : s.builders i = .store n) (hn : s.nodes[n]? = some ⟨.udpClient cfg.address, 0⟩)
    (htoken : hexDecode tokenHex.toList = some token) (hlen : token.length = 32) :
    s.Leaks cfg token := by
  have hstep : s.partyStep cfg (.build i true) =
      some { s.setBuilder i .signal with sender := n } := by
    rw [partyStep, buildStep, hi]
  have hkeeps : s.keepsTunnel (.party (.build i true)) = true := by
    rw [keepsTunnel, buildKeepsTunnel, hi]
  exact .of_step (party_step hcr hdone hstep) hkeeps (Exposed.leaks ⟨hcr, hdone, hn⟩ htoken hlen)

theorem Uplink.leaks_of_newNode (hcr : s.crashed = false) (hdone : s.boot = .done) {i : ℕ}
    (hi : s.builders i = .newNode (.udpClient cfg.address))
    (htoken : hexDecode tokenHex.toList = some token) (hlen : token.length = 32) :
    s.Leaks cfg token := by
  have hstep : s.partyStep cfg (.build i true) = some
      { s.setBuilder i (.store s.nodes.length) with
        nodes := s.nodes ++ [⟨.udpClient cfg.address, 0⟩] } := by
    rw [partyStep, buildStep, hi]
    rfl
  have hkeeps : s.keepsTunnel (.party (.build i true)) = true := by
    rw [keepsTunnel, buildKeepsTunnel, hi]
  refine .of_step (party_step hcr hdone hstep) hkeeps ?_
  exact leaks_of_store hcr hdone (i := i) (if_pos rfl) (by simp) htoken hlen

theorem Uplink.Untouched.exposed (h : s.Untouched cfg) (hcr : s.crashed = false) :
    Exposed cfg { s with boot := .done } :=
  ⟨hcr, rfl, by simp [h.nodes, h.sender]⟩

/-- `NewWithVPN` that does not keep to the tunnel leaves the plain sender in place. -/
theorem Uplink.TunnelInv.exposed_of_bootStep (h : s.TunnelInv cfg) (hcr : s.crashed = false)
    {ok : Bool} (hnot : s.bootKeepsTunnel = false) (hstep : s.bootStep cfg ok = some s') :
    s'.Exposed cfg := by
  rw [bootKeepsTunnel] at hnot
  rw [Uplink.bootStep] at hstep
  have hearly := h.untouched
  rcases hpc : s.boot with _ | _ | _ | _ | _ | n | _ <;>
    rw [hpc] at hnot hstep hearly <;> dsimp only at hnot hstep
  case isRunning =>
    rw [← Option.some.inj hstep, if_neg (by rw [hnot]; decide)]
    exact (hearly rfl).exposed hcr
  case getAssignedIP =>
    rw [← Option.some.inj hstep, if_pos (not_not.mp (of_decide_eq_false hnot))]
    exact (hearly rfl).exposed hcr
  all_goals exact absurd hnot (by decide)

/-- `getEndpointConf` that does not keep to the tunnel answers with a plain endpoint. -/
theorem Uplink.newNode_of_buildStep {i : ℕ} {ok : Bool} (hnot : s.buildKeepsTunnel i ok = false)
    (hstep : s.buildStep cfg i ok = some s') :
    s' = s.setBuilder i (.newNode (.udpClient cfg.address)) := by
  rw [buildKeepsTunnel] at hnot
  rw [buildStep] at hstep
  rcases hpc : s.builders i with _ | _ | _ | _ | n | _ | _ | _ | endpoint | n | _ <;>
    rw [hpc] at hnot hstep <;> dsimp only at hnot hstep
  case confIsRunning => rw [← Option.some.inj hstep, if_neg (by rw [hnot]; decide)]
  case confGetAssignedIP =>
    rw [← Option.some.inj hstep, if_pos (not_not.mp (of_decide_eq_false hnot))]
  case confDialUDP => rw [← Option.some.inj hstep, if_neg (by rw [hnot]; decide)]
  all_goals exact absurd hnot (by decide)

/-- A step that settles for a plain endpoint leads to a leak. -/
theorem Uplink.TunnelInv.leaks_of_not_keeps (h : s.TunnelInv cfg) {e : UplinkEvent}
    (hstep : (uplinkMachine cfg).step s e = some s') (hnot : s.keepsTunnel e = false)
    (htoken : hexDecode tokenHex.toList = some token) (hlen : token.length = 32) :
    s'.Leaks cfg token := by
  obtain ⟨hcr, hcase⟩ := uplinkMachine_step_eq_some.mp hstep
  rcases hcase with ⟨v, rfl, rfl⟩ | ⟨ok, rfl, hboot⟩ | ⟨p, rfl, hdone, hparty⟩
  · exact absurd hnot (by simp [keepsTunnel])
  · exact (h.exposed_of_bootStep hcr hnot hboot).leaks htoken hlen
  · rcases p with i | i | ⟨i, ok⟩ | ⟨raw, deliver⟩ | _ | ⟨hex, expiresAt, connected⟩ | _ |
      ⟨i, raw⟩ | i
    case build =>
      rw [newNode_of_buildStep hnot hparty]
      exact leaks_of_newNode hcr hdone (i := i) (if_pos rfl) htoken hlen
    all_goals exact absurd hnot (by simp [keepsTunnel])

end Leak

/-- **What keeps the uplink in the tunnel.** While no step settles for a plain endpoint, everything
written went to an endpoint of the VPN manager. The first step that does lets the next keepalive
write any session token to a plain one. -/
theorem uplink_stays_in_tunnel {cfg : UplinkConf} {vpn : Manager} {es : List UplinkEvent}
    {s : Uplink} (hrun : (uplinkMachine cfg).run (.new cfg vpn) es = some s)
    (hkeeps : (uplinkMachine cfg).Along (fun s e ↦ s.keepsTunnel e = true) (.new cfg vpn) es) :
    (∀ w ∈ s.sent, w.2.isVpn = true) ∧
    ∀ e s', (uplinkMachine cfg).step s e = some s' → s.keepsTunnel e = false →
      ∀ (tokenHex : String) (token : List UInt8), hexDecode tokenHex.toList = some token →
        token.length = 32 → s'.Leaks cfg token := by
  have hinv := Uplink.tunnelInv_of_run hkeeps hrun
  refine ⟨?_, fun e s' hstep hnot tokenHex token htoken hlen ↦
    hinv.leaks_of_not_keeps hstep hnot htoken hlen⟩
  rcases hearly : s.boot.early with _ | _
  · exact (hinv.contained hearly).sent
  · rw [(hinv.untouched hearly).sent]
    exact nofun

/-- A tunnel that is up when the forwarder is made carries the first frame. -/
theorem uplink_stays_in_tunnel_frame :
    ∃ s, (uplinkMachine ⟨"server:14550", true⟩).run
        (.new ⟨"server:14550", true⟩ ⟨some ⟨"10.8.0.2/24"⟩, none, true⟩)
        [.boot true, .boot true, .boot true, .boot true, .boot true, .boot true,
          .party (.frame [0xFD] true), .party .forward, .party .forward, .party .forward] =
        some s ∧
      s.sent = [(.px4 [0xFD], .vpnConn "server:14550")] ∧ ∀ w ∈ s.sent, w.2.isVpn = true := by
  have hrun : (uplinkMachine ⟨"server:14550", true⟩).run
      (.new ⟨"server:14550", true⟩ ⟨some ⟨"10.8.0.2/24"⟩, none, true⟩)
      [.boot true, .boot true, .boot true, .boot true, .boot true, .boot true,
        .party (.frame [0xFD] true), .party .forward, .party .forward, .party .forward] =
      some _ := rfl
  exact ⟨_, hrun, rfl, (uplink_stays_in_tunnel hrun (by decide)).1⟩

/-- The tunnel is down when the forwarder is made. The token of the first keepalive goes out in the
clear, and so does the first frame after the tunnel has come up: the sender is still the plain one.
-/
theorem keepalive_and_frame_outside_tunnel :
    ∃ s, (uplinkMachine ⟨"server:14550", false⟩).run
        (.new ⟨"server:14550", false⟩ ⟨some ⟨"10.8.0.2/24"⟩, none, false⟩)
        [.boot true,
          .party (.tick "000102030405060708090a0b0c0d0e0f101112131415161718191a1b1c1d1e1f" 0 true),
          .party .keepalive, .vpn (.start true), .party (.frame [0xFD] true), .party .forward,
          .party .forward, .party .forward] = some s ∧
      s.sent =
        [(.keepAlive ⟨(List.range 32).map Nat.toUInt8, 0, 0, 1⟩, .udpClient "server:14550"),
          (.px4 [0xFD], .udpClient "server:14550")] :=
  ⟨_, rfl, rfl⟩

end DroneBridge
