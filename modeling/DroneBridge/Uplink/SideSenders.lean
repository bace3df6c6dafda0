import DroneBridge.Lib.HandleTable
import DroneBridge.Link.Latch
import DroneBridge.Uplink.Sender

/-!
# The senders of the companion computer

Beside the sender of the uplink the forwarder keeps two nodes of its own: one for the messages of
the cameras, which carry the system id of the aircraft, and one for the status of the companion
computer. `New` makes both, and every replacement of the uplink sender replaces them too.

They are replaced in another order than the uplink sender. The new node is made first; then, in one
critical section, the old node is closed and the new one stored. So any number of replacements may
run at once: there is always an open sender of either kind, none is closed twice and none is lost.
The publishers are less careful: `publishViaNode` takes the node as an argument, and its argument is
read before the mutex is locked. A node that is replaced in between takes the message without an
error, the message is counted, and nobody gets it.
-/

namespace DroneBridge

inductive SideKind
  | camera
  | companion
  deriving DecidableEq, Repr

def SideKind.compID : SideKind → UInt8
  | .camera => 100
  | .companion => 191

/-- The system id that a new node is given. -/
def SideKind.sysID (bridge : MAVLinkBridge) : SideKind → UInt8
  | .camera => resolveOutSystemID (some bridge)
  | .companion => 245

structure SideNode where
  kind : SideKind
  endpoint : SenderEndpoint
  sysID : UInt8
  deriving DecidableEq, Repr

/-- A replacement of the two senders, named by the call it makes next. `NewWithVPN` dials by itself
(`boot`). -/
inductive SideBuildPc
  | idle
  | confIsRunning (kind : SideKind)
  | confGetAssignedIP (kind : SideKind)
  | confDialUDP (kind : SideKind)
  | bootDialUDP (kind : SideKind)
  | newNode (boot : Bool) (kind : SideKind) (endpoint : SenderEndpoint)
  | swap (boot : Bool) (kind : SideKind) (node : ℕ)
  deriving DecidableEq, Repr

/-- The companion's sender comes after the camera's. -/
def SideBuildPc.next (boot : Bool) : SideKind → SideBuildPc
  | .camera => if boot then .bootDialUDP .companion else .confIsRunning .companion
  | .companion => .idle

/-- A publisher between reading the pointer and writing to the node. -/
inductive SidePublishPc
  | idle
  | write (kind : SideKind) (raw : List UInt8) (node : ℕ)
  deriving DecidableEq, Repr

/-- A message as it leaves: what the node adds to it, and where it goes. -/
structure SideMessage where
  kind : SideKind
  sysID : UInt8
  compID : UInt8
  raw : List UInt8
  endpoint : SenderEndpoint
  deriving DecidableEq, Repr

structure SideSenders where
  vpn : Manager
  /-- The web bridge, which is there before the senders are. -/
  bridge : MAVLinkBridge
  /-- The nodes made so far. -/
  made : List SideNode
  /-- The two senders, and the nodes that replacements have made and not yet stored. -/
  table : HandleTable (SideKind ⊕ ℕ)
  builders : ℕ → SideBuildPc
  publishers : ℕ → SidePublishPc
  /-- The messages that were counted as sent. -/
  counted : List (SideKind × List UInt8)
  /-- Ghost: the messages that left. -/
  sent : List SideMessage

namespace SideSenders

/-- What `New` leaves, before the first frame of the flight controller is read: the camera's sender
does not know the aircraft. -/
def new (cfg : UplinkConf) (vpn : Manager) : SideSenders where
  vpn := vpn
  bridge := .new
  made := [⟨.camera, .udpClient cfg.address, SideKind.camera.sysID .new⟩,
    ⟨.companion, .udpClient cfg.address, SideKind.companion.sysID .new⟩]
  table := (HandleTable.empty.insert (.inl .camera)).insert (.inl .companion)
  builders := fun _ ↦ .idle
  publishers := fun _ ↦ .idle
  counted := []
  sent := []

variable (s : SideSenders)

def setBuilder (i : ℕ) (pc : SideBuildPc) : SideSenders :=
  { s with builders := Function.update s.builders i pc }

def setPublisher (j : ℕ) (pc : SidePublishPc) : SideSenders :=
  { s with publishers := Function.update s.publishers j pc }

/-- `createOutboundNode` by a builder. -/
def create (i : ℕ) (boot : Bool) (kind : SideKind) (endpoint : SenderEndpoint) : SideSenders :=
  { s with
    made := s.made ++ [⟨kind, endpoint, kind.sysID s.bridge⟩]
    table := s.table.insert (.inr i)
    builders := Function.update s.builders i (.swap boot kind s.table.next) }

/-- The critical section of `initCameraSender` and `initCompanionSender`. -/
def swap (i : ℕ) (boot : Bool) (kind : SideKind) : SideSenders :=
  { s with
    table := (s.table.close (.inl kind)).move (.inr i) (.inl kind)
    builders := Function.update s.builders i (.next boot kind) }

/-- The next step of a builder; `ok` is what `DialUDP` or `NewNode` answers. -/
def buildStep (cfg : UplinkConf) (i : ℕ) (ok : Bool) : Option SideSenders :=
  match s.builders i with
  | .idle => none
  | .confIsRunning kind =>
    some (s.setBuilder i (if s.vpn.isRunning then .confGetAssignedIP kind
      else .newNode false kind (.udpClient cfg.address)))
  | .confGetAssignedIP kind =>
    some (s.setBuilder i (if s.vpn.getAssignedIP = "" then
      .newNode false kind (.udpClient cfg.address) else .confDialUDP kind))
  | .confDialUDP kind =>
    some (s.setBuilder i (.newNode false kind
      (if s.vpn.dialUDP ok then .vpnConn cfg.address else .udpClient cfg.address)))
  | .bootDialUDP kind =>
    some (s.setBuilder i (if s.vpn.dialUDP ok then .newNode true kind (.vpnConn cfg.address)
      else .next true kind))
  | .newNode boot kind endpoint =>
    if ok then some (s.create i boot kind endpoint)
    else some (s.setBuilder i (.next boot kind))
  | .swap boot kind _ => some (s.swap i boot kind)

/-- `WriteMessageAll` on a node: a closed one drops the message and returns no error. -/
def writeNode (kind : SideKind) (raw : List UInt8) (n : ℕ) : SideSenders :=
  match s.made[n]? with
  | none => s
  | some node =>
    if s.table.Open n then
      { s with sent := s.sent ++ [⟨kind, node.sysID, node.kind.compID, raw, node.endpoint⟩] }
    else s

end SideSenders

inductive SideEvent
  | vpn (e : VPNEvent)
  /-- A heartbeat reaches the web bridge. -/
  | heartbeat (sysID : UInt8)
  /-- A replacement comes to the two senders: in `NewWithVPN`, or elsewhere. -/
  | beginBoot (i : ℕ)
  | beginRebuild (i : ℕ)
  /-- A builder takes its next step. -/
  | build (i : ℕ) (ok : Bool)
  /-- `PublishCamera` or `PublishCompanion` is called, and the pointer is read. -/
  | publish (j : ℕ) (kind : SideKind) (raw : List UInt8)
  | publishWrite (j : ℕ)
  deriving DecidableEq, Repr

namespace SideSenders

def begin (s : SideSenders) (i : ℕ) (pc : SideBuildPc) : Option SideSenders :=
  if s.builders i = .idle then some (s.setBuilder i pc) else none

def step (cfg : UplinkConf) (s : SideSenders) : SideEvent → Option SideSenders
  | .vpn e => some { s with vpn := s.vpn.apply e }
  | .heartbeat sysID => some { s with bridge := s.bridge.handleHeartbeat sysID }
  | .beginBoot i => s.begin i (.bootDialUDP .camera)
  | .beginRebuild i => s.begin i (.confIsRunning .camera)
  | .build i ok => s.buildStep cfg i ok
  | .publish j kind raw =>
    match s.publishers j, s.table.current (.inl kind) with
    | .idle, some n => some (s.setPublisher j (.write kind raw n))
    -- "mavlink outbound node not ready"
    | .idle, none => some s
    | .write .., _ => none
  | .publishWrite j =>
    match s.publishers j with
    | .idle => none
    | .write kind raw n =>
      let counted := s.counted ++ [(kind, raw)]
      some (setPublisher { s.writeNode kind raw n with counted := counted } j .idle)

end SideSenders

def sideMachine (cfg : UplinkConf) : Machine SideSenders SideEvent where
  step := SideSenders.step cfg

/-! ## What every step keeps -/

/-- An id that a node or a message of the kind may carry: the camera's may be from before the first
heartbeat. -/
def SideKind.Carries (bridge : MAVLinkBridge) (sysID : UInt8) : SideKind → Prop
  | .camera => sysID = 1 ∨ bridge.connected = true ∧ sysID = bridge.pixhawkSysID
  | .companion => sysID = 245

theorem SideKind.carries_sysID {bridge : MAVLinkBridge}
    (h : bridge.connected = false → bridge.pixhawkSysID = 0) (kind : SideKind) :
    kind.Carries bridge (kind.sysID bridge) := by
  cases kind with
  | companion => exact rfl
  | camera =>
    rw [sysID, resolveOutSystemID, getPixhawkSystemID]
    split
    case isFalse => exact .inl rfl
    case isTrue hne =>
      refine .inr ⟨?_, rfl⟩
      rw [← Bool.not_eq_false]
      exact fun hconn ↦ hne (h hconn)

theorem SideKind.Carries.handleHeartbeat {bridge : MAVLinkBridge} {id : UInt8} {kind : SideKind}
    (h : kind.Carries bridge id) (sysID : UInt8) :
    kind.Carries (bridge.handleHeartbeat sysID) id := by
  cases kind with
  | companion => exact h
  | camera =>
    rcases h with h | ⟨hconn, hid⟩
    · exact .inl h
    · have hkeep : bridge.handleHeartbeat sysID = bridge := by
        rw [MAVLinkBridge.handleHeartbeat, if_neg (by simp [hconn])]
      rw [hkeep]
      exact .inr ⟨hconn, hid⟩

theorem SideBuildPc.next_ne_swap (boot : Bool) (kind : SideKind) (boot' : Bool) (kind' : SideKind)
    (n : ℕ) : SideBuildPc.next boot kind ≠ .swap boot' kind' n := by
  cases kind <;> cases boot <;> exact nofun

namespace SideSenders

def Made (s : SideSenders) (kind : SideKind) (n : ℕ) : Prop :=
  ∃ node, s.made[n]? = some node ∧ node.kind = kind

structure Kept (s : SideSenders) : Prop where
  table : s.table.Coherent
  length : s.made.length = s.table.next
  current : ∀ kind, ∃ n, s.table.current (.inl kind) = some n ∧ s.Made kind n
  pending : ∀ i n, s.table.current (.inr i) = some n ↔ ∃ boot kind, s.builders i = .swap boot kind n
  swapped : ∀ i boot kind n, s.builders i = .swap boot kind n → s.Made kind n
  held : ∀ j kind raw n, s.publishers j = .write kind raw n →
    s.Made kind n ∧ (s.table.Open n → s.table.current (.inl kind) = some n)
  bridge : s.bridge.connected = false → s.bridge.pixhawkSysID = 0
  made : ∀ node ∈ s.made, node.kind.Carries s.bridge node.sysID
  sent : ∀ m ∈ s.sent, m.compID = m.kind.compID ∧ m.kind.Carries s.bridge m.sysID
  counted : (s.sent.map fun m ↦ (m.kind, m.raw)).Sublist s.counted

variable {cfg : UplinkConf} {s s' : SideSenders}

theorem Made.lt {kind : SideKind} {n : ℕ} (h : s.Made kind n) : n < s.made.length := by
  obtain ⟨node, hnode, -⟩ := h
  exact (List.getElem?_eq_some_iff.mp hnode).1

theorem kept_new (cfg : UplinkConf) (vpn : Manager) : (new cfg vpn).Kept where
  table := by
    refine (HandleTable.coherent_empty.insert rfl).insert ?_
    exact HandleTable.insert_current_of_ne (by decide)
  length := rfl
  current kind := by
    cases kind with
    | camera => exact ⟨0, rfl, _, rfl, rfl⟩
    | companion => exact ⟨1, rfl, _, rfl, rfl⟩
  pending i n := by
    refine iff_of_false ?_ (fun ⟨_, _, h⟩ ↦ nomatch h)
    exact fun h ↦ nomatch h
  swapped _ _ _ _ h := nomatch h
  held _ _ _ _ h := nomatch h
  bridge _ := rfl
  made := by
    intro node hnode
    rcases List.mem_pair.mp hnode with rfl | rfl
    · exact .inl rfl
    · exact rfl
  sent := nofun
  counted := .slnil

/-! ## Replacing a sender -/

theorem Kept.current_inr_eq_none (h : s.Kept) {i : ℕ}
    (hi : ∀ boot kind n, s.builders i ≠ .swap boot kind n) : s.table.current (.inr i) = none := by
  rw [Option.eq_none_iff_forall_ne_some]
  intro n hn
  obtain ⟨boot, kind, hswap⟩ := (h.pending i n).mp hn
  exact hi boot kind n hswap

theorem Kept.setBuilder (h : s.Kept) {i : ℕ} {pc : SideBuildPc}
    (hi : ∀ boot kind n, s.builders i ≠ .swap boot kind n)
    (hpc : ∀ boot kind n, pc ≠ .swap boot kind n) : (s.setBuilder i pc).Kept :=
  { h with
    pending := by
      intro j n
      by_cases hj : j = i
      · subst hj
        refine iff_of_false ?_ ?_
        · exact fun hn ↦ nomatch (h.current_inr_eq_none hi).symm.trans hn
        · rintro ⟨boot, kind, hswap⟩
          exact hpc boot kind n ((Function.update_self ..).symm.trans hswap)
      · have hpc : (s.setBuilder i pc).builders j = s.builders j := Function.update_of_ne hj ..
        rw [hpc]
        exact h.pending j n
    swapped := by
      intro j boot kind n hswap
      by_cases hj : j = i
      · subst hj
        exact absurd ((Function.update_self ..).symm.trans hswap) (hpc boot kind n)
      · exact h.swapped j boot kind n ((Function.update_of_ne hj ..).symm.trans hswap) }

theorem Made.create {kind kind' : SideKind} {n i : ℕ} (h : s.Made kind n) (boot : Bool)
    (endpoint : SenderEndpoint) : (s.create i boot kind' endpoint).Made kind n := by
  obtain ⟨node, hnode, hkind⟩ := h
  exact ⟨node, (List.getElem?_append_left (List.getElem?_eq_some_iff.mp hnode).1).trans hnode,
    hkind⟩

theorem made_create (h : s.Kept) (i : ℕ) (boot : Bool) (kind : SideKind)
    (endpoint : SenderEndpoint) : (s.create i boot kind endpoint).Made kind s.table.next := by
  rw [← h.length]
  exact ⟨_, List.getElem?_concat_length, rfl⟩

theorem Kept.create (h : s.Kept) {i : ℕ} (hi : ∀ boot kind n, s.builders i ≠ .swap boot kind n)
    (boot : Bool) (kind : SideKind) (endpoint : SenderEndpoint) :
    (s.create i boot kind endpoint).Kept where
  table := h.table.insert (h.current_inr_eq_none hi)
  length := by
    rw [SideSenders.create, HandleTable.insert_next, ← h.length]
    exact List.length_append
  current kind' := by
    obtain ⟨n, hn, hmade⟩ := h.current kind'
    exact ⟨n, (HandleTable.insert_current_of_ne Sum.inl_ne_inr).trans hn,
      hmade.create boot endpoint⟩
  pending j n := by
    by_cases hj : j = i
    · subst hj
      have hpc : (s.create j boot kind endpoint).builders j = .swap boot kind s.table.next :=
        Function.update_self ..
      rw [hpc, SideSenders.create, HandleTable.insert_current_self]
      constructor
      · intro hn
        exact ⟨boot, kind, by rw [Option.some.inj hn]⟩
      · rintro ⟨boot', kind', hswap⟩
        rw [(SideBuildPc.swap.inj hswap).2.2]
    · have hpc : (s.create i boot kind endpoint).builders j = s.builders j :=
        Function.update_of_ne hj ..
      rw [hpc, SideSenders.create, HandleTable.insert_current_of_ne (by simpa using hj)]
      exact h.pending j n
  swapped j boot' kind' n hswap := by
    by_cases hj : j = i
    · subst hj
      obtain ⟨-, rfl, rfl⟩ := SideBuildPc.swap.inj ((Function.update_self ..).symm.trans hswap)
      exact made_create h j boot kind endpoint
    · exact (h.swapped j boot' kind' n
        ((Function.update_of_ne hj ..).symm.trans hswap)).create boot endpoint
  held j kind' raw n hwrite := by
    obtain ⟨hmade, hcurrent⟩ := h.held j kind' raw n hwrite
    refine ⟨hmade.create boot endpoint, fun hopen ↦ ?_⟩
    -- A node that a publisher holds is older than the new one.
    have hlt : n < s.table.next := h.length ▸ hmade.lt
    rcases HandleTable.open_insert.mp hopen with hopen | rfl
    · exact (HandleTable.insert_current_of_ne Sum.inl_ne_inr).trans (hcurrent hopen)
    · exact absurd hlt (Nat.lt_irrefl _)
  bridge := h.bridge
  made := by
    intro node hnode
    rcases List.mem_append.mp hnode with hnode | hnode
    · exact h.made node hnode
    · rw [List.mem_singleton.mp hnode]
      exact SideKind.carries_sysID h.bridge kind
  sent := h.sent
  counted := h.counted

theorem current_swap_self {i : ℕ} {boot : Bool} {kind : SideKind} :
    (s.swap i boot kind).table.current (.inl kind) = s.table.current (.inr i) :=
  (HandleTable.move_current_target Sum.inl_ne_inr).trans
    (HandleTable.close_current_of_ne Sum.inr_ne_inl)

theorem current_swap_of_ne {i : ℕ} {boot : Bool} {kind kind' : SideKind} (hne : kind' ≠ kind) :
    (s.swap i boot kind).table.current (.inl kind') = s.table.current (.inl kind') := by
  have hne' : (Sum.inl kind' : SideKind ⊕ ℕ) ≠ .inl kind := by simpa using hne
  exact (HandleTable.move_current_of_ne Sum.inl_ne_inr hne').trans
    (HandleTable.close_current_of_ne hne')

theorem Kept.swap (h : s.Kept) {i : ℕ} {boot : Bool} {kind : SideKind} {n : ℕ}
    (hi : s.builders i = .swap boot kind n) : (s.swap i boot kind).Kept where
  table := (h.table.close _).move Sum.inl_ne_inr (HandleTable.close_current_self _)
  length := h.length.trans (HandleTable.close_next _).symm
  current kind' := by
    by_cases hkind : kind' = kind
    · subst hkind
      exact ⟨n, current_swap_self.trans ((h.pending i n).mpr ⟨boot, kind', hi⟩),
        h.swapped i boot kind' n hi⟩
    · obtain ⟨m, hm, hmade⟩ := h.current kind'
      refine ⟨m, (current_swap_of_ne hkind).trans hm, hmade⟩
  pending j m := by
    by_cases hj : j = i
    · subst hj
      refine iff_of_false ?_ ?_
      · exact fun hm ↦ nomatch (HandleTable.move_current_source ..).symm.trans hm
      · rintro ⟨boot', kind', hswap⟩
        exact SideBuildPc.next_ne_swap boot kind boot' kind' m
          ((Function.update_self ..).symm.trans hswap)
    · have hpc : (s.swap i boot kind).builders j = s.builders j := Function.update_of_ne hj ..
      rw [hpc, ← h.pending j m, SideSenders.swap,
        HandleTable.move_current_of_ne (by simpa using hj) Sum.inr_ne_inl,
        HandleTable.close_current_of_ne Sum.inr_ne_inl]
  swapped j boot' kind' m hswap := by
    by_cases hj : j = i
    · subst hj
      exact absurd ((Function.update_self ..).symm.trans hswap)
        (SideBuildPc.next_ne_swap boot kind boot' kind' m)
    · exact h.swapped j boot' kind' m ((Function.update_of_ne hj ..).symm.trans hswap)
  held j kind' raw m hwrite := by
    obtain ⟨hmade, hcurrent⟩ := h.held j kind' raw m hwrite
    refine ⟨hmade, fun hopen ↦ ?_⟩
    obtain ⟨old, hold, -⟩ := h.current kind
    obtain ⟨hbefore, hne⟩ := (HandleTable.open_close hold).mp hopen
    -- Of this kind the node in use has been closed, and a publisher holds no other open one.
    have hkind : kind' ≠ kind := by
      rintro rfl
      exact hne (Option.some.inj ((hcurrent hbefore).symm.trans hold))
    exact (current_swap_of_ne hkind).trans (hcurrent hbefore)
  bridge := h.bridge
  made := h.made
  sent := h.sent
  counted := h.counted

/-! ## Publishing -/

theorem publish_eq_some {j : ℕ} {kind : SideKind} {raw : List UInt8}
    (hstep : (sideMachine cfg).step s (.publish j kind raw) = some s') :
    s' = s ∨ ∃ n, s.table.current (.inl kind) = some n ∧
      s' = s.setPublisher j (.write kind raw n) := by
  cases hj : s.publishers j with
  | write => simp [sideMachine, SideSenders.step, hj] at hstep
  | idle =>
    cases hn : s.table.current (.inl kind) with
    | none => exact .inl (by simpa [sideMachine, SideSenders.step, hj, hn] using hstep.symm)
    | some n =>
      refine .inr ⟨n, rfl, ?_⟩
      simpa [sideMachine, SideSenders.step, hj, hn] using hstep.symm

theorem publishWrite_eq_some {j : ℕ}
    (hstep : (sideMachine cfg).step s (.publishWrite j) = some s') :
    ∃ kind raw n, s.publishers j = .write kind raw n ∧
      s' = setPublisher { s.writeNode kind raw n with counted := s.counted ++ [(kind, raw)] } j
        .idle := by
  cases hj : s.publishers j with
  | idle => simp [sideMachine, SideSenders.step, hj] at hstep
  | write kind raw n =>
    refine ⟨kind, raw, n, rfl, ?_⟩
    simpa [sideMachine, SideSenders.step, hj] using hstep.symm

theorem writeNode_eq (s : SideSenders) (kind : SideKind) (raw : List UInt8) (n : ℕ) :
    ∃ more, s.writeNode kind raw n = { s with sent := s.sent ++ more } ∧
      ∀ m ∈ more, s.table.Open n ∧ ∃ node, s.made[n]? = some node ∧
        m = ⟨kind, node.sysID, node.kind.compID, raw, node.endpoint⟩ := by
  rw [writeNode]
  cases hnode : s.made[n]? with
  | none => exact ⟨[], by rw [List.append_nil], nofun⟩
  | some node =>
    dsimp only
    split
    case isTrue hopen => exact ⟨_, rfl, fun m hm ↦ ⟨hopen, node, rfl, List.mem_singleton.mp hm⟩⟩
    case isFalse => exact ⟨[], by rw [List.append_nil], nofun⟩

/-- What a write on a node of the kind puts out: the message, if the node is open. -/
theorem sent_writeNode {kind : SideKind} {n : ℕ} (hmade : s.Made kind n) (raw : List UInt8) :
    ∃ more, (s.writeNode kind raw n).sent = s.sent ++ more ∧
      more.map (fun m ↦ (m.kind, m.raw)) = if s.table.Open n then [(kind, raw)] else [] := by
  obtain ⟨node, hnode, -⟩ := hmade
  rw [writeNode, hnode]
  dsimp only
  split_ifs
  · exact ⟨_, rfl, rfl⟩
  · exact ⟨[], (List.append_nil _).symm, rfl⟩

theorem Kept.setPublisher (h : s.Kept) {j : ℕ} {pc : SidePublishPc}
    (hpc : ∀ kind raw n, pc = .write kind raw n →
      s.Made kind n ∧ (s.table.Open n → s.table.current (.inl kind) = some n)) :
    (s.setPublisher j pc).Kept :=
  { h with
    held := by
      intro j' kind raw n hwrite
      by_cases hj : j' = j
      · subst hj
        exact hpc kind raw n ((Function.update_self ..).symm.trans hwrite)
      · exact h.held j' kind raw n ((Function.update_of_ne hj ..).symm.trans hwrite) }

theorem Kept.writeNode (h : s.Kept) {kind : SideKind} {n : ℕ} (hmade : s.Made kind n)
    (raw : List UInt8) :
    Kept { s.writeNode kind raw n with counted := s.counted ++ [(kind, raw)] } := by
  obtain ⟨node, hnode, hkind⟩ := hmade
  rw [SideSenders.writeNode, hnode]
  dsimp only
  split
  case isFalse => exact { h with counted := h.counted.trans (List.sublist_append_left ..) }
  case isTrue =>
    refine { h with sent := ?_, counted := ?_ }
    · intro m hm
      rcases List.mem_append.mp hm with hm | hm
      · exact h.sent m hm
      · rw [List.mem_singleton.mp hm]
        exact ⟨by rw [hkind], hkind ▸ h.made node (List.mem_of_getElem? hnode)⟩
    · rw [List.map_append]
      exact h.counted.append (.refl _)

/-! ## Runs -/

theorem Kept.begin (h : s.Kept) {i : ℕ} {pc : SideBuildPc}
    (hpc : ∀ boot kind n, pc ≠ .swap boot kind n) (hstep : s.begin i pc = some s') : s'.Kept := by
  obtain ⟨hidle, hs'⟩ := Option.ite_none_right_eq_some.mp hstep
  obtain rfl := Option.some.inj hs'
  exact h.setBuilder (hidle ▸ nofun) hpc

theorem Kept.buildStep (h : s.Kept) {i : ℕ} {ok : Bool}
    (hstep : s.buildStep cfg i ok = some s') : s'.Kept := by
  rw [SideSenders.buildStep] at hstep
  split at hstep
  case h_1 => exact nomatch hstep
  case h_2 kind hpc | h_3 kind hpc =>
    obtain rfl := Option.some.inj hstep
    refine h.setBuilder (hpc ▸ nofun) ?_
    split <;> exact nofun
  case h_4 kind hpc =>
    obtain rfl := Option.some.inj hstep
    exact h.setBuilder (hpc ▸ nofun) nofun
  case h_5 kind hpc =>
    obtain rfl := Option.some.inj hstep
    refine h.setBuilder (hpc ▸ nofun) ?_
    split
    · exact nofun
    · exact SideBuildPc.next_ne_swap true kind
  case h_6 boot kind endpoint hpc =>
    split at hstep
    · obtain rfl := Option.some.inj hstep
      exact h.create (hpc ▸ nofun) boot kind endpoint
    · obtain rfl := Option.some.inj hstep
      exact h.setBuilder (hpc ▸ nofun) (SideBuildPc.next_ne_swap boot kind)
  case h_7 boot kind n hpc =>
    obtain rfl := Option.some.inj hstep
    exact h.swap hpc

theorem Kept.step (h : s.Kept) {e : SideEvent} (hstep : (sideMachine cfg).step s e = some s') :
    s'.Kept := by
  cases e with
  | vpn e =>
    cases hstep
    exact { h with }
  | heartbeat sysID =>
    cases hstep
    refine { h with bridge := ?_, made := ?_, sent := ?_ }
    · dsimp only
      rw [MAVLinkBridge.handleHeartbeat]
      split
      · exact nofun
      · exact h.bridge
    · exact fun node hnode ↦ (h.made node hnode).handleHeartbeat sysID
    · exact fun m hm ↦ ⟨(h.sent m hm).1, (h.sent m hm).2.handleHeartbeat sysID⟩
  | beginBoot i | beginRebuild i => exact h.begin (by exact nofun) hstep
  | build i ok => exact h.buildStep hstep
  | publish j kind raw =>
    rcases publish_eq_some hstep with rfl | ⟨n, hn, rfl⟩
    · exact h
    · refine h.setPublisher ?_
      intro kind' raw' n' hwrite
      obtain ⟨rfl, -, rfl⟩ := SidePublishPc.write.inj hwrite
      obtain ⟨m, hm, hmade⟩ := h.current kind
      exact ⟨Option.some.inj (hm.symm.trans hn) ▸ hmade, fun _ ↦ hn⟩
  | publishWrite j =>
    obtain ⟨kind, raw, n, hwrite, rfl⟩ := publishWrite_eq_some hstep
    exact (h.writeNode (h.held j kind raw n hwrite).1 raw).setPublisher (by exact nofun)

theorem Kept.of_run {vpn : Manager} {es : List SideEvent}
    (hrun : (sideMachine cfg).run (new cfg vpn) es = some s) : s.Kept :=
  Machine.invariant (fun _ _ _ h hstep ↦ h.step hstep) (kept_new cfg vpn) hrun

end SideSenders

/-- **The senders of the companion computer.** After any interleaving of replacements, publishers
and the tunnel there is an open sender of either kind; every other open node is in the hands of a
replacement that is about to store it; and no node was closed twice.

A publisher that has read the pointer still gets its message out just when the sender has not been
replaced meanwhile, but the message is counted either way. What gets out carries the component id of
its kind; the companion's has its own system id, and the camera's that of the aircraft or, if its
node was made before the first heartbeat, the default. -/
theorem side_senders_kept {cfg : UplinkConf} {vpn : Manager} {es : List SideEvent} {s : SideSenders}
    (hrun : (sideMachine cfg).run (.new cfg vpn) es = some s) :
    (∀ kind, ∃ n, s.table.current (.inl kind) = some n ∧ s.table.Open n) ∧
    (∀ n, s.table.Open n → (∃ kind, s.table.current (.inl kind) = some n) ∨
      ∃ i boot kind, s.builders i = .swap boot kind n) ∧
    (∀ closes ∈ s.table.closes, closes ≤ 1) ∧
    (∀ j kind raw n, s.publishers j = .write kind raw n →
      (s.table.Open n ↔ s.table.current (.inl kind) = some n) ∧
      ∃ s' more, (sideMachine cfg).step s (.publishWrite j) = some s' ∧
        s'.counted = s.counted ++ [(kind, raw)] ∧ s'.sent = s.sent ++ more ∧
        more.map (fun m ↦ (m.kind, m.raw)) =
          if s.table.current (.inl kind) = some n then [(kind, raw)] else []) ∧
    (s.sent.map fun m ↦ (m.kind, m.raw)).Sublist s.counted ∧
    (∀ m ∈ s.sent, m.compID = m.kind.compID ∧ m.kind.Carries s.bridge m.sysID) := by
  have h := SideSenders.Kept.of_run hrun
  refine ⟨?_, ?_, h.table.once, ?_, h.counted, h.sent⟩
  · intro kind
    obtain ⟨n, hn, -⟩ := h.current kind
    exact ⟨n, hn, h.table.isOpen _ n hn⟩
  · intro n hopen
    obtain ⟨kind | i, hn⟩ := h.table.listed n hopen
    · exact .inl ⟨kind, hn⟩
    · exact .inr ⟨i, (h.pending i n).mp hn⟩
  · intro j kind raw n hwrite
    obtain ⟨hmade, hcurrent⟩ := h.held j kind raw n hwrite
    -- A node that a publisher holds is open only as the current one.
    have hopen : s.table.Open n ↔ s.table.current (.inl kind) = some n :=
      ⟨hcurrent, fun hn ↦ h.table.isOpen _ n hn⟩
    obtain ⟨more, hsent, hmore⟩ := SideSenders.sent_writeNode hmade raw
    have hstep : (sideMachine cfg).step s (.publishWrite j) = some (SideSenders.setPublisher
        { s.writeNode kind raw n with counted := s.counted ++ [(kind, raw)] } j .idle) := by
      simp only [sideMachine, SideSenders.step, hwrite]
    exact ⟨hopen, _, more, hstep, rfl, hsent, by simpa only [hopen] using hmore⟩

/-- A server inside the tunnel, and a tunnel that is provisioned and not up yet. -/
def tunnelServer : UplinkConf := ⟨"10.8.0.1:14550", false⟩

def provisionedTunnel : Manager := ⟨some ⟨"10.8.0.2/24"⟩, none, false⟩

/-- A publisher reads the camera's sender, and the tunnel replaces it before the message is
written. -/
def replacedMeanwhile : List SideEvent :=
  [.publish 0 .camera [1], .heartbeat 42, .vpn (.start true), .beginRebuild 0, .build 0 true,
    .build 0 true, .build 0 true, .build 0 true, .build 0 true, .publishWrite 0,
    .publish 0 .camera [2], .publishWrite 0]

/-- The message is counted and lost; the next one goes through the tunnel. -/
theorem side_senders_kept_replaced :
    ∃ s, (sideMachine tunnelServer).run (.new tunnelServer provisionedTunnel) replacedMeanwhile =
        some s ∧
      s.counted = [(.camera, [1]), (.camera, [2])] ∧
      s.sent = [⟨.camera, 42, 100, [2], .vpnConn "10.8.0.1:14550"⟩] ∧
      (s.sent.map fun m ↦ (m.kind, m.raw)).Sublist s.counted := by
  obtain ⟨s, hs⟩ : ∃ s, (sideMachine tunnelServer).run (.new tunnelServer provisionedTunnel)
      replacedMeanwhile = some s := ⟨_, rfl⟩
  refine ⟨s, hs, ?_, ?_, (side_senders_kept hs).2.2.2.2.1⟩
  · cases hs
    rfl
  · cases hs
    rfl

end DroneBridge
