import DroneBridge.Uplink.Ownership

/-!
# An undisturbed rebuild

A call of `rebuildSender` that no other replacement interrupts is one run of a builder of the
uplink: it closes the sender, asks the tunnel for an endpoint, makes a node and stores it. On an
open sender it returns, and the sender is open again just when the node could be made. On a sender
that is closed already, its close is the second one, and the program panics.
-/

namespace DroneBridge

/-- What `DialUDP` and `NewNode` answer in one rebuild. -/
structure RebuildOutcome where
  dialUDP : Bool
  newNode : Bool
  deriving DecidableEq, Repr

namespace Uplink

/-- The steps that `getEndpointConf` takes. -/
def confEvents (s : Uplink) (i : ℕ) (dialUDP : Bool) : List UplinkEvent :=
  if s.vpn.isRunning then
    if s.vpn.getAssignedIP = "" then [.party (.build i true), .party (.build i true)]
    else [.party (.build i true), .party (.build i true), .party (.build i dialUDP)]
  else [.party (.build i true)]

/-- A rebuild that nothing interrupts. -/
def rebuildEvents (s : Uplink) (i : ℕ) (r : RebuildOutcome) : List UplinkEvent :=
  .party (.rebuildSender i) :: .party (.build i true) :: .party (.build i true) ::
    (s.confEvents i r.dialUDP ++ .party (.build i r.newNode) ::
      if r.newNode then [.party (.build i true), .party (.build i true)] else [])

/-- A rebuild by the IP monitor, whose builder is `0`; `none` is a panic. -/
def rebuild (cfg : UplinkConf) (s : Uplink) (r : RebuildOutcome) : Option Uplink :=
  (uplinkMachine cfg).run s (s.rebuildEvents 0 r)

/-- Between two cycles: the program runs and nobody is replacing the sender. -/
structure Ready (s : Uplink) : Prop where
  boot : s.boot = .done
  crashed : s.crashed = false
  builders : ∀ i, s.builders i = .idle
  sender : s.sender < s.nodes.length

variable {s : Uplink} {cfg : UplinkConf} {i : ℕ}

@[simp] theorem setBuilder_same (pc : BuildPc) : (s.setBuilder i pc).builders i = pc := if_pos rfl

@[simp] theorem setBuilder_setBuilder (pc pc' : BuildPc) :
    (s.setBuilder i pc).setBuilder i pc' = s.setBuilder i pc' := by
  rw [setBuilder, setBuilder, setBuilder]
  congr 1
  funext j
  dsimp only
  split <;> rfl

theorem closeNode_eq (n : ℕ) :
    ∃ nodes crashed, nodes.length = s.nodes.length ∧
      s.closeNode n = { s with nodes := nodes, crashed := crashed } := by
  rw [closeNode]
  split
  · exact ⟨_, _, rfl, rfl⟩
  · exact ⟨_, _, List.length_set, rfl⟩

theorem closeNode_setBuilder (pc : BuildPc) (n : ℕ) :
    (s.setBuilder i pc).closeNode n = (s.closeNode n).setBuilder i pc := by
  rw [closeNode, closeNode]
  dsimp only [setBuilder]
  split <;> rfl

theorem run_build {s' : Uplink} {ok : Bool} (hstep : s.buildStep cfg i ok = some s')
    (hcr : s.crashed = false) (hdone : s.boot = .done) (es : List UplinkEvent) :
    (uplinkMachine cfg).run s (.party (.build i ok) :: es) = (uplinkMachine cfg).run s' es := by
  have hparty : s.partyStep cfg (.build i ok) = some s' := hstep
  rw [Machine.run_cons, party_step hcr hdone hparty, Option.bind_some]

variable (cfg) in
theorem run_close (h : s.Ready) (es : List UplinkEvent) :
    (uplinkMachine cfg).run s
        (.party (.rebuildSender i) :: .party (.build i true) :: .party (.build i true) :: es) =
      (uplinkMachine cfg).run ((s.closeNode s.sender).setBuilder i .confIsRunning) es := by
  have hbegin : (uplinkMachine cfg).step s (.party (.rebuildSender i)) =
      some (s.setBuilder i .readOld) :=
    party_step h.crashed h.boot (by rw [partyStep, if_pos (h.builders i)])
  have hread : (s.setBuilder i .readOld).buildStep cfg i true =
      some (s.setBuilder i (.closeOld s.sender)) := by
    rw [buildStep, setBuilder_same]
    exact congrArg some (setBuilder_setBuilder _ _)
  have hclose : (s.setBuilder i (.closeOld s.sender)).buildStep cfg i true =
      some ((s.closeNode s.sender).setBuilder i .confIsRunning) := by
    rw [buildStep, setBuilder_same]
    dsimp only
    rw [closeNode_setBuilder, setBuilder_setBuilder]
  rw [Machine.run_cons, hbegin, Option.bind_some, run_build hread h.crashed h.boot,
    run_build hclose h.crashed h.boot]

variable (cfg) in
theorem run_confEvents (hcr : s.crashed = false) (hdone : s.boot = .done)
    (hpc : s.builders i = .confIsRunning) (dialUDP : Bool) :
    ∃ endpoint, ∀ es, (uplinkMachine cfg).run s (s.confEvents i dialUDP ++ es) =
      (uplinkMachine cfg).run (s.setBuilder i (.newNode endpoint)) es := by
  have hfirst : s.buildStep cfg i true = some (s.setBuilder i
      (if s.vpn.isRunning then .confGetAssignedIP else .newNode (.udpClient cfg.address))) := by
    rw [buildStep, hpc]
  have hsecond : (s.setBuilder i .confGetAssignedIP).buildStep cfg i true = some (s.setBuilder i
      (if s.vpn.getAssignedIP = "" then .newNode (.udpClient cfg.address) else .confDialUDP)) := by
    rw [buildStep, setBuilder_same]
    exact congrArg some (setBuilder_setBuilder _ _)
  have hthird : (s.setBuilder i .confDialUDP).buildStep cfg i dialUDP = some (s.setBuilder i
      (.newNode (if s.vpn.dialUDP dialUDP then .vpnConn cfg.address
        else .udpClient cfg.address))) := by
    rw [buildStep, setBuilder_same]
    exact congrArg some (setBuilder_setBuilder _ _)
  rw [confEvents]
  by_cases hrun : s.vpn.isRunning = true
  · rw [if_pos hrun] at hfirst ⊢
    by_cases haddr : s.vpn.getAssignedIP = ""
    · rw [if_pos haddr] at hsecond ⊢
      refine ⟨.udpClient cfg.address, fun es ↦ ?_⟩
      exact (run_build hfirst hcr hdone _).trans (run_build hsecond hcr hdone _)
    · rw [if_neg haddr] at hsecond ⊢
      refine ⟨if s.vpn.dialUDP dialUDP then .vpnConn cfg.address else .udpClient cfg.address,
        fun es ↦ ?_⟩
      exact ((run_build hfirst hcr hdone _).trans (run_build hsecond hcr hdone _)).trans
        (run_build hthird hcr hdone _)
  · rw [if_neg hrun] at hfirst ⊢
    exact ⟨.udpClient cfg.address, fun es ↦ run_build hfirst hcr hdone _⟩

/-- The end of a rebuild whose node could be made. -/
def rebuilt (s : Uplink) (i : ℕ) (endpoint : SenderEndpoint) : Uplink :=
  setBuilder
    { s with nodes := s.nodes ++ [⟨endpoint, 0⟩], sender := s.nodes.length, rebuildCh := true }
    i .idle

variable (cfg) in
theorem run_newNode (hcr : s.crashed = false) (hdone : s.boot = .done) {endpoint : SenderEndpoint}
    (hpc : s.builders i = .newNode endpoint) (ok : Bool) :
    (uplinkMachine cfg).run s (.party (.build i ok) ::
        if ok then [.party (.build i true), .party (.build i true)] else []) =
      some (if ok then s.rebuilt i endpoint else s.setBuilder i .idle) := by
  rcases ok with _ | _
  · have hfail : s.buildStep cfg i false = some (s.setBuilder i .idle) := by
      rw [buildStep, hpc]
      rfl
    exact run_build hfail hcr hdone []
  · have hnew : s.buildStep cfg i true = some
        (setBuilder { s with nodes := s.nodes ++ [⟨endpoint, 0⟩] } i (.store s.nodes.length)) := by
      rw [buildStep, hpc]
      rfl
    have hstore : (setBuilder { s with nodes := s.nodes ++ [⟨endpoint, 0⟩] } i
          (.store s.nodes.length)).buildStep cfg i true = some
        (setBuilder { s with nodes := s.nodes ++ [⟨endpoint, 0⟩], sender := s.nodes.length } i
          .signal) := by
      rw [buildStep, setBuilder_same]
      dsimp only
      rw [setBuilder_setBuilder]
      rfl
    have hsignal : (setBuilder
          { s with nodes := s.nodes ++ [⟨endpoint, 0⟩], sender := s.nodes.length } i
          .signal).buildStep cfg i true = some (s.rebuilt i endpoint) := by
      rw [buildStep, setBuilder_same]
      dsimp only
      rw [setBuilder_setBuilder]
      rfl
    exact ((run_build hnew hcr hdone _).trans (run_build hstore hcr hdone _)).trans
      (run_build hsignal hcr hdone _)

variable {r : RebuildOutcome}

theorem rebuild_closed (h : s.Ready) (hn : ¬ s.Open s.sender) : s.rebuild cfg r = none := by
  have hcr : ((s.closeNode s.sender).setBuilder 0 .confIsRunning).crashed = true :=
    (crashed_closeNode h.crashed h.sender).mpr hn
  refine (run_close cfg h _).trans ?_
  have hhead : ∃ e es, s.confEvents 0 r.dialUDP = e :: es := by
    rw [confEvents]
    split
    · split <;> exact ⟨_, _, rfl⟩
    · exact ⟨_, _, rfl⟩
  obtain ⟨e, es, hconf⟩ := hhead
  rw [hconf, List.cons_append, Machine.run_cons, uplinkMachine]
  dsimp only
  rw [if_pos hcr, Option.bind_none]

variable (cfg) in
/-- A rebuild on an open sender returns, and leaves an open sender when the node could be made. -/
theorem rebuild_open (h : s.Ready) (hn : s.Open s.sender) :
    ∃ s', s.rebuild cfg r = some s' ∧ s'.Ready ∧ (s'.Open s'.sender ↔ r.newNode = true) := by
  obtain ⟨nodes, crashed, hlen, hclose⟩ := closeNode_eq (s := s) s.sender
  have hcr : (s.closeNode s.sender).crashed = false :=
    Bool.eq_false_iff.mpr fun hcr ↦ (crashed_closeNode h.crashed h.sender).mp hcr hn
  have hshut : ¬ (s.closeNode s.sender).Open s.sender := by
    rw [← open_slot, slot_closeNode]
    simp
  have hlt : s.sender < nodes.length := by
    rw [hlen]
    exact h.sender
  have hidle : ∀ (pc : BuildPc) j,
      ((s.setBuilder 0 pc).setBuilder 0 .idle).builders j = .idle := by
    intro pc j
    rw [setBuilder_setBuilder]
    dsimp only [setBuilder]
    split
    · rfl
    · exact h.builders j
  have hrun := run_close cfg (i := 0) h (s.confEvents 0 r.dialUDP ++
    .party (.build 0 r.newNode) ::
      if r.newNode then [.party (.build 0 true), .party (.build 0 true)] else [])
  rw [hclose] at hcr hshut hrun
  -- From here on the old sender is closed and the builder chooses the endpoint.
  obtain ⟨endpoint, hconf⟩ := run_confEvents cfg (i := 0)
    (s := setBuilder { s with nodes := nodes, crashed := crashed } 0 .confIsRunning)
    hcr h.boot (setBuilder_same _) r.dialUDP
  rw [setBuilder_setBuilder] at hconf
  have hnew := run_newNode cfg (i := 0)
    (s := setBuilder { s with nodes := nodes, crashed := crashed } 0 (.newNode endpoint))
    hcr h.boot (setBuilder_same _) r.newNode
  refine ⟨_, (hrun.trans (hconf _)).trans hnew, ?_⟩
  rcases r.newNode with _ | _
  · refine ⟨⟨h.boot, hcr, hidle _, hlt⟩, iff_of_false hshut (by simp)⟩
  · refine ⟨⟨h.boot, hcr, hidle _, ?_⟩, iff_of_true ⟨⟨endpoint, 0⟩, ?_, rfl⟩ rfl⟩
    · simp [rebuilt, setBuilder]
    · simp [rebuilt, setBuilder]

end Uplink

end DroneBridge
