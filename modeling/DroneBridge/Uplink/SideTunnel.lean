import DroneBridge.Uplink.SideSenders

/-!
# The tunnel and the senders of the companion computer

The forwarding loop asks for the tunnel before it writes a frame. The publishers of the companion
computer ask for nothing: where their messages go was decided when the node was made. What `New`
made has plain endpoints, so until the first replacement the status of the companion goes out beside
the tunnel. From then on it depends on `getEndpointConf`, as it does for the uplink sender.
-/

namespace DroneBridge

/-- The endpoint that was chosen is in the tunnel, and the node that was made is none of `New`. -/
def SideBuildPc.Inside : SideBuildPc → Prop
  | .newNode _ _ endpoint => endpoint.isVpn = true
  | .swap _ _ n => 2 ≤ n
  | _ => True

theorem SideBuildPc.inside_next (boot : Bool) (kind : SideKind) :
    (SideBuildPc.next boot kind).Inside := by
  cases kind <;> cases boot <;> trivial

namespace SideSenders

/-- The step does not settle for a plain endpoint. -/
def keepsTunnel (s : SideSenders) : SideEvent → Bool
  | .build i ok =>
    match s.builders i with
    | .confIsRunning _ => s.vpn.isRunning
    | .confGetAssignedIP _ => s.vpn.getAssignedIP ≠ ""
    | .confDialUDP _ => s.vpn.dialUDP ok
    | _ => true
  | _ => true

/-- Only the two nodes of `New` can write beside the tunnel. -/
structure Tunnelled (s : SideSenders) : Prop where
  length : 2 ≤ s.made.length
  made : ∀ n node, s.made[n]? = some node → 2 ≤ n → node.endpoint.isVpn = true
  builders : ∀ i, (s.builders i).Inside

variable {cfg : UplinkConf} {s s' : SideSenders}

theorem tunnelled_new (cfg : UplinkConf) (vpn : Manager) : (new cfg vpn).Tunnelled where
  length := Nat.le_refl 2
  made n node hnode hn := by
    have hlt : n < 2 := (List.getElem?_eq_some_iff.mp hnode).1
    exact absurd hn (Nat.not_le.mpr hlt)
  builders _ := trivial

theorem Tunnelled.update (h : s.Tunnelled) {i : ℕ} {pc : SideBuildPc} (hpc : pc.Inside) (j : ℕ) :
    (Function.update s.builders i pc j).Inside := by
  by_cases hj : j = i
  · rw [hj, Function.update_self]
    exact hpc
  · rw [Function.update_of_ne hj]
    exact h.builders j

theorem Tunnelled.setBuilder (h : s.Tunnelled) {i : ℕ} {pc : SideBuildPc} (hpc : pc.Inside) :
    (s.setBuilder i pc).Tunnelled := { h with builders := h.update hpc }

theorem Tunnelled.create (h : s.Tunnelled) (hkept : s.Kept) {endpoint : SenderEndpoint}
    (hvpn : endpoint.isVpn = true) (i : ℕ) (boot : Bool) (kind : SideKind) :
    (s.create i boot kind endpoint).Tunnelled where
  length := Nat.le_trans h.length (by simp [SideSenders.create])
  made n node hnode hn := by
    rw [SideSenders.create, List.getElem?_append] at hnode
    split at hnode
    · exact h.made n node hnode hn
    · rw [List.mem_singleton.mp (List.mem_of_getElem? hnode)]
      exact hvpn
  builders := by
    refine h.update ?_
    exact hkept.length ▸ h.length

theorem Tunnelled.buildStep (h : s.Tunnelled) (hkept : s.Kept) {i : ℕ} {ok : Bool}
    (hkeeps : s.keepsTunnel (.build i ok) = true) (hstep : s.buildStep cfg i ok = some s') :
    s'.Tunnelled := by
  rw [keepsTunnel] at hkeeps
  rw [SideSenders.buildStep] at hstep
  cases hpc : s.builders i with
  | idle =>
    rw [hpc] at hstep
    cases hstep
  | confIsRunning kind =>
    rw [hpc] at hstep hkeeps
    obtain rfl := Option.some.inj hstep
    refine h.setBuilder ?_
    rw [if_pos hkeeps]
    trivial
  | confGetAssignedIP kind =>
    rw [hpc] at hstep hkeeps
    obtain rfl := Option.some.inj hstep
    refine h.setBuilder ?_
    rw [if_neg (of_decide_eq_true hkeeps)]
    trivial
  | confDialUDP kind =>
    rw [hpc] at hstep hkeeps
    obtain rfl := Option.some.inj hstep
    refine h.setBuilder ?_
    rw [if_pos hkeeps]
    exact rfl
  | bootDialUDP kind =>
    rw [hpc] at hstep
    obtain rfl := Option.some.inj hstep
    refine h.setBuilder ?_
    split
    · exact rfl
    · exact SideBuildPc.inside_next true kind
  | newNode boot kind endpoint =>
    have hvpn : endpoint.isVpn = true := by
      have hinside := h.builders i
      rwa [hpc] at hinside
    rw [hpc] at hstep
    dsimp only at hstep
    split at hstep
    · obtain rfl := Option.some.inj hstep
      exact h.create hkept hvpn i boot kind
    · obtain rfl := Option.some.inj hstep
      exact h.setBuilder (SideBuildPc.inside_next boot kind)
  | swap boot kind n =>
    rw [hpc] at hstep
    obtain rfl := Option.some.inj hstep
    exact { h with builders := h.update (SideBuildPc.inside_next boot kind) }

theorem Tunnelled.begin (h : s.Tunnelled) {i : ℕ} {pc : SideBuildPc} (hpc : pc.Inside)
    (hstep : s.begin i pc = some s') : s'.Tunnelled := by
  obtain ⟨-, hs'⟩ := Option.ite_none_right_eq_some.mp hstep
  obtain rfl := Option.some.inj hs'
  exact h.setBuilder hpc

theorem Tunnelled.step (h : s.Tunnelled) (hkept : s.Kept) {e : SideEvent}
    (hkeeps : s.keepsTunnel e = true) (hstep : (sideMachine cfg).step s e = some s') :
    s'.Tunnelled := by
  cases e with
  | vpn e | heartbeat sysID =>
    cases hstep
    exact { h with }
  | beginBoot i | beginRebuild i => exact h.begin (by trivial) hstep
  | build i ok => exact h.buildStep hkept hkeeps hstep
  | publish j kind raw =>
    rcases publish_eq_some hstep with rfl | ⟨n, -, rfl⟩
    · exact h
    · exact { h with }
  | publishWrite j =>
    obtain ⟨kind, raw, n, -, rfl⟩ := publishWrite_eq_some hstep
    obtain ⟨more, hmore, -⟩ := s.writeNode_eq kind raw n
    rw [hmore]
    exact { h with }

/-- A builder sends nothing, and stores only what it has made. -/
theorem buildStep_stores {i : ℕ} {ok : Bool} (hkept : s.Kept)
    (hstep : s.buildStep cfg i ok = some s') :
    s'.sent = s.sent ∧ ∀ kind n, s'.table.current (.inl kind) = some n →
      s.table.current (.inl kind) = some n ∨ ∃ boot kind, s.builders i = .swap boot kind n := by
  rw [SideSenders.buildStep] at hstep
  split at hstep
  case h_1 => cases hstep
  case h_2 | h_3 | h_4 | h_5 =>
    obtain rfl := Option.some.inj hstep
    exact ⟨rfl, fun _ _ hn ↦ .inl hn⟩
  case h_6 =>
    split at hstep
    · obtain rfl := Option.some.inj hstep
      exact ⟨rfl, fun _ _ hn ↦
        .inl ((HandleTable.insert_current_of_ne Sum.inl_ne_inr).symm.trans hn)⟩
    · obtain rfl := Option.some.inj hstep
      exact ⟨rfl, fun _ _ hn ↦ .inl hn⟩
  case h_7 boot kind m _ =>
    obtain rfl := Option.some.inj hstep
    refine ⟨rfl, fun kind' n hn ↦ ?_⟩
    by_cases hkind : kind' = kind
    · subst hkind
      exact .inr ((hkept.pending i n).mp (current_swap_self.symm.trans hn))
    · exact .inl ((current_swap_of_ne hkind).symm.trans hn)

/-- Both senders were replaced, and what was sent since went through the tunnel. -/
structure Inside (before : List SideMessage) (s : SideSenders) : Prop where
  kept : s.Kept
  tunnelled : s.Tunnelled
  replaced : ∀ kind n, s.table.current (.inl kind) = some n → 2 ≤ n
  sent : ∃ more, s.sent = before ++ more ∧ ∀ m ∈ more, m.endpoint.isVpn = true

theorem Inside.step {before : List SideMessage} (h : s.Inside before) {e : SideEvent}
    (hkeeps : s.keepsTunnel e = true) (hstep : (sideMachine cfg).step s e = some s') :
    s'.Inside before := by
  have hkept := h.kept.step hstep
  have htunnelled := h.tunnelled.step h.kept hkeeps hstep
  cases e with
  | vpn e | heartbeat sysID =>
    cases hstep
    exact ⟨hkept, htunnelled, h.replaced, h.sent⟩
  | beginBoot i | beginRebuild i =>
    obtain ⟨-, hs'⟩ := Option.ite_none_right_eq_some.mp hstep
    obtain rfl := Option.some.inj hs'
    exact ⟨hkept, htunnelled, h.replaced, h.sent⟩
  | build i ok =>
    obtain ⟨hsent, hstores⟩ := buildStep_stores h.kept hstep
    refine ⟨hkept, htunnelled, fun kind n hn ↦ ?_, hsent ▸ h.sent⟩
    rcases hstores kind n hn with hn | ⟨boot, kind', hswap⟩
    · exact h.replaced kind n hn
    · have hinside := h.tunnelled.builders i
      rwa [hswap] at hinside
  | publish j kind raw =>
    rcases publish_eq_some hstep with rfl | ⟨n, -, rfl⟩
    · exact h
    · exact ⟨hkept, htunnelled, h.replaced, h.sent⟩
  | publishWrite j =>
    obtain ⟨kind, raw, n, hwrite, rfl⟩ := publishWrite_eq_some hstep
    obtain ⟨more, hmore, hall⟩ := s.writeNode_eq kind raw n
    rw [hmore] at hkept htunnelled ⊢
    refine ⟨hkept, htunnelled, h.replaced, ?_⟩
    obtain ⟨old, hold, hvpn⟩ := h.sent
    refine ⟨old ++ more, by rw [← List.append_assoc, ← hold]; rfl, ?_⟩
    intro m hm
    rcases List.mem_append.mp hm with hm | hm
    · exact hvpn m hm
    · -- The node is open, so it is the current one, and that is none of `New`.
      obtain ⟨hopen, node, hnode, rfl⟩ := hall m hm
      have hcurrent := (h.kept.held j kind raw n hwrite).2 hopen
      exact h.tunnelled.made n node hnode (h.replaced kind n hcurrent)

end SideSenders

/-- **The tunnel.** Let no replacement settle for a plain endpoint. Once both senders have been
replaced, all that the companion computer sends of its own goes through the tunnel. -/
theorem side_traffic_tunnelled {cfg : UplinkConf} {vpn : Manager} {es fs : List SideEvent}
    {s s' : SideSenders} (hrun : (sideMachine cfg).run (.new cfg vpn) es = some s)
    (hrun' : (sideMachine cfg).run s fs = some s')
    (hkeeps : (sideMachine cfg).Along (fun s e ↦ s.keepsTunnel e = true) (.new cfg vpn) (es ++ fs))
    (hreplaced : ∀ kind n, s.table.current (.inl kind) = some n → 2 ≤ n) :
    ∃ more, s'.sent = s.sent ++ more ∧ ∀ m ∈ more, m.endpoint.isVpn = true := by
  rw [Machine.along_append hrun] at hkeeps
  have hboth : s.Kept ∧ s.Tunnelled :=
    Machine.invariant_along (I := fun s ↦ s.Kept ∧ s.Tunnelled)
      (fun _ _ _ h he hstep ↦ ⟨h.1.step hstep, h.2.step h.1 he hstep⟩)
      ⟨SideSenders.kept_new cfg vpn, SideSenders.tunnelled_new cfg vpn⟩ hkeeps.1 hrun
  have hinside : s.Inside s.sent :=
    ⟨hboth.1, hboth.2, hreplaced, [], (List.append_nil _).symm, nofun⟩
  exact (Machine.invariant_along (fun _ _ _ h he hstep ↦ h.step he hstep) hinside hkeeps.2
    hrun').sent

/-- The tunnel comes up, and both senders are replaced. -/
def bothReplaced : List SideEvent :=
  .vpn (.start true) :: .beginRebuild 0 :: List.replicate 10 (.build 0 true)

theorem side_traffic_tunnelled_companion :
    ∃ s s', (sideMachine tunnelServer).run (.new tunnelServer provisionedTunnel) bothReplaced =
        some s ∧
      (sideMachine tunnelServer).run s [.publish 0 .companion [7], .publishWrite 0] = some s' ∧
      s'.sent = [⟨.companion, 245, 191, [7], .vpnConn "10.8.0.1:14550"⟩] ∧
      ∃ more, s'.sent = s.sent ++ more ∧ ∀ m ∈ more, m.endpoint.isVpn = true := by
  obtain ⟨s, hs⟩ : ∃ s, (sideMachine tunnelServer).run (.new tunnelServer provisionedTunnel)
      bothReplaced = some s := ⟨_, rfl⟩
  obtain ⟨s', hs'⟩ : ∃ s', (sideMachine tunnelServer).run s
      [.publish 0 .companion [7], .publishWrite 0] = some s' := by
    cases hs
    exact ⟨_, rfl⟩
  refine ⟨s, s', hs, hs', ?_, side_traffic_tunnelled hs hs' (by decide) ?_⟩
  · cases hs
    cases hs'
    rfl
  · cases hs
    rintro (_ | _) n hn
    · obtain rfl : 2 = n := Option.some.inj hn
      decide
    · obtain rfl : 3 = n := Option.some.inj hn
      decide

/-- Before the senders are replaced, the status of the companion goes out beside the tunnel. -/
example :
    ((sideMachine tunnelServer).run (.new tunnelServer provisionedTunnel)
      [.vpn (.start true), .publish 0 .companion [7], .publishWrite 0]).map (·.sent) =
      some [⟨.companion, 245, 191, [7], .udpClient "10.8.0.1:14550"⟩] := rfl

end DroneBridge
