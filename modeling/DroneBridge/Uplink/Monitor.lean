import DroneBridge.Auth.Session
import DroneBridge.Uplink.Rebuild

/-!
# The IP monitor

`monitorIPChange` looks at the physical egress and at the current IP in cycles, and rebuilds the
sender when either has changed, when the network comes back, and when the forwarder is unhealthy.
A rebuild closes the sender before it makes a new one. When that fails the closed sender stays, and
nothing marks the forwarder unhealthy; a rebuild on a closed sender panics.

A rebuild is not modelled a second time: it is the undisturbed run of a builder of the uplink
(`Uplink.rebuild`). What a cycle observes, and what `DialUDP` and `NewNode` answer in its rebuilds,
is part of the label of the cycle. The callbacks of the auth client, which set the health flag from
other goroutines, are events between the cycles.
-/

namespace DroneBridge

/-! ## The monitor -/

/-- What one cycle observes, and what its rebuilds are answered. -/
structure IPCycle where
  /-- Interface and address of `PhysicalEgress`, when it answers. -/
  egress : Option (String × String)
  /-- The rebuild after a change of the egress, if there is one. -/
  egressRebuild : RebuildOutcome
  /-- What `getCurrentIP` returns; empty when there is no valid IP. -/
  currentIP : String
  /-- The rebuild that the current IP asks for, if it does. -/
  rebuild : RebuildOutcome
  deriving DecidableEq, Repr

structure IPMonitor where
  up : Uplink
  isHealthy : Bool
  previousIP : String
  previousPhysicalEgress : String
  networkWasDown : Bool

namespace IPMonitor

/-- As `New` leaves the forwarder. -/
def new (cfg : UplinkConf) (vpn : Manager) : IPMonitor where
  up := .new cfg vpn
  isHealthy := true
  previousIP := ""
  previousPhysicalEgress := ""
  networkWasDown := false

variable (cfg : UplinkConf) (m : IPMonitor) (c : IPCycle)

/-- A rebuild that succeeds makes the forwarder healthy; one that fails leaves the flag alone. -/
def rebuildSender (r : RebuildOutcome) : Option IPMonitor :=
  (m.up.rebuild cfg r).map fun up ↦ { m with up, isHealthy := r.newNode || m.isHealthy }

/-- The first egress seen is recorded; a later one that differs asks for a rebuild. -/
def checkPhysicalEgressChange : Option IPMonitor :=
  match c.egress with
  | none => some m
  | some (iface, ip) =>
    let key := iface ++ "|" ++ ip
    if iface = "" then some m
    else if m.previousPhysicalEgress = "" then some { m with previousPhysicalEgress := key }
    else if key = m.previousPhysicalEgress then some m
    else { m with previousPhysicalEgress := key }.rebuildSender cfg c.egressRebuild

/-- The part of `checkIP` that looks at the current IP. -/
def checkCurrentIP : Option IPMonitor :=
  if c.currentIP = "" then
    some (if m.networkWasDown then m else { m with isHealthy := false, networkWasDown := true })
  else if m.networkWasDown then
    { m with networkWasDown := false, previousIP := c.currentIP }.rebuildSender cfg c.rebuild
  else if m.previousIP = "" then
    { m with previousIP := c.currentIP }.rebuildSender cfg c.rebuild
  else if m.previousIP ≠ c.currentIP then
    { m with previousIP := c.currentIP }.rebuildSender cfg c.rebuild
  else if m.isHealthy then some m
  else m.rebuildSender cfg c.rebuild

/-- One cycle; `none` is a panic. -/
def checkIP : Option IPMonitor :=
  (m.checkPhysicalEgressChange cfg c).bind fun m ↦ m.checkCurrentIP cfg c

end IPMonitor

inductive MonitorEvent
  /-- `NewWithVPN` takes its next step. -/
  | boot (ok : Bool)
  | vpn (e : VPNEvent)
  | cycle (c : IPCycle)
  /-- The callbacks of the auth client. -/
  | networkError
  | disconnectCause (cause : DisconnectCause)
  | sessionRestored
  deriving DecidableEq, Repr

/-- The event is a callback of the auth client. -/
def MonitorEvent.isAuth : MonitorEvent → Bool
  | .networkError | .disconnectCause _ | .sessionRestored => true
  | _ => false

/-- The IP monitor between `NewWithVPN` and the auth client. -/
def monitorMachine (cfg : UplinkConf) : Machine IPMonitor MonitorEvent where
  step m
    | .boot ok => ((uplinkMachine cfg).step m.up (.boot ok)).map fun up ↦ { m with up }
    | .vpn e => ((uplinkMachine cfg).step m.up (.vpn e)).map fun up ↦ { m with up }
    | .cycle c => if m.up.boot = .done then m.checkIP cfg c else none
    | .networkError => some { m with isHealthy := false }
    | .disconnectCause cause =>
      some { m with isHealthy := m.isHealthy &&
        !(cause = .sessionInvalid || cause = .authFailed) }
    | .sessionRestored => some { m with isHealthy := true }

/-! ## What a cycle does -/

namespace IPMonitor

variable {cfg : UplinkConf} {m m' : IPMonitor} {c : IPCycle} {r : RebuildOutcome}

/-- The cycle finds another egress than the one recorded. -/
def egressChanged (m : IPMonitor) (c : IPCycle) : Bool :=
  match c.egress with
  | none => false
  | some (iface, ip) =>
    iface ≠ "" && m.previousPhysicalEgress ≠ "" && iface ++ "|" ++ ip ≠ m.previousPhysicalEgress

/-- The health flag when the cycle comes to look at the current IP. -/
def healthyAtIP (m : IPMonitor) (c : IPCycle) : Bool :=
  m.egressChanged c && c.egressRebuild.newNode || m.isHealthy

/-- The current IP asks for a rebuild of a forwarder with the given health. -/
def asksRebuild (m : IPMonitor) (c : IPCycle) (healthy : Bool) : Bool :=
  c.currentIP ≠ "" &&
    (m.networkWasDown || m.previousIP = "" || m.previousIP ≠ c.currentIP || !healthy)

def SenderOpen (m : IPMonitor) : Prop := m.up.Open m.up.sender

/-- After a rebuild answered with `r`. -/
structure Rebuilt (m m' : IPMonitor) (r : RebuildOutcome) : Prop where
  wasOpen : m.SenderOpen
  ready : m'.up.Ready
  isOpen : m'.SenderOpen ↔ r.newNode = true
  isHealthy : m'.isHealthy = (r.newNode || m.isHealthy)
  previousIP : m'.previousIP = m.previousIP
  networkWasDown : m'.networkWasDown = m.networkWasDown

theorem rebuilt_of_rebuildSender (h : m.up.Ready) (hr : m.rebuildSender cfg r = some m') :
    Rebuilt m m' r := by
  obtain ⟨up, hup, rfl⟩ := Option.map_eq_some_iff.mp hr
  by_cases hopen : m.up.Open m.up.sender
  · obtain ⟨s', hs', hready, hiff⟩ := Uplink.rebuild_open cfg (r := r) h hopen
    rw [hup, Option.some.injEq] at hs'
    exact hs' ▸ ⟨hopen, hready, hiff, rfl, rfl, rfl⟩
  · rw [Uplink.rebuild_closed h hopen] at hup
    exact absurd hup (by simp)

/-- What the egress check does to a monitor. -/
inductive EgressStep (m m' : IPMonitor) (c : IPCycle) : Prop
  | same (hsame : m.egressChanged c = false) (hup : m'.up = m.up)
      (hhealth : m'.isHealthy = m.isHealthy) (hip : m'.previousIP = m.previousIP)
      (hdown : m'.networkWasDown = m.networkWasDown)
  | changed (hchanged : m.egressChanged c = true) (hr : Rebuilt m m' c.egressRebuild)

theorem egressStep (h : m.up.Ready) (hc : m.checkPhysicalEgressChange cfg c = some m') :
    EgressStep m m' c := by
  rw [checkPhysicalEgressChange] at hc
  rcases hegress : c.egress with _ | ⟨iface, ip⟩ <;> rw [hegress] at hc <;> dsimp only at hc
  · rw [← Option.some.inj hc]
    exact .same (by rw [egressChanged, hegress]) rfl rfl rfl rfl
  · split at hc
    case isTrue hiface =>
      rw [← Option.some.inj hc]
      exact .same (by simp [egressChanged, hegress, hiface]) rfl rfl rfl rfl
    split at hc
    case isTrue hprev =>
      rw [← Option.some.inj hc]
      exact .same (by simp [egressChanged, hegress, hprev]) rfl rfl rfl rfl
    split at hc
    case isTrue hkey =>
      rw [← Option.some.inj hc]
      exact .same (by simp [egressChanged, hegress, hkey]) rfl rfl rfl rfl
    case isFalse hiface hprev hkey =>
      have hr := rebuilt_of_rebuildSender
        (m := { m with previousPhysicalEgress := iface ++ "|" ++ ip }) h hc
      refine .changed (by simp [egressChanged, hegress, hiface, hprev, hkey]) ?_
      exact ⟨hr.wasOpen, hr.ready, hr.isOpen, hr.isHealthy, hr.previousIP, hr.networkWasDown⟩

/-- What the rest of a cycle does. -/
inductive IPStep (m m' : IPMonitor) (c : IPCycle) : Prop
  | lost (hip : c.currentIP = "") (hup : m'.up = m.up) (hprev : m'.previousIP = m.previousIP)
      (hhealth : m'.isHealthy = (m.networkWasDown && m.isHealthy))
      (hdown : m'.networkWasDown = true)
  | rebuilt (hask : m.asksRebuild c m.isHealthy = true) (hopen : m.SenderOpen)
      (hready : m'.up.Ready) (hopen' : m'.SenderOpen ↔ c.rebuild.newNode = true)
      (hhealth : m'.isHealthy = (c.rebuild.newNode || m.isHealthy))
      (hprev : m'.previousIP ≠ "") (hdown : m'.networkWasDown = false)
  | quiet (hask : m.asksRebuild c m.isHealthy = false) (hip : c.currentIP ≠ "") (hsame : m' = m)

theorem ipStep (h : m.up.Ready) (hc : m.checkCurrentIP cfg c = some m') : IPStep m m' c := by
  rw [checkCurrentIP] at hc
  split at hc
  case isTrue hip =>
    rw [← Option.some.inj hc]
    split
    case isTrue hdown => exact .lost hip rfl rfl (by simp [hdown]) hdown
    case isFalse hdown => exact .lost hip rfl rfl (by simp [hdown]) rfl
  case isFalse hip =>
    split at hc
    case isTrue hdown =>
      have hr := rebuilt_of_rebuildSender
        (m := { m with networkWasDown := false, previousIP := c.currentIP }) h hc
      refine .rebuilt (by simp [asksRebuild, hip, hdown]) hr.wasOpen hr.ready hr.isOpen hr.isHealthy
        ?_ hr.networkWasDown
      rw [hr.previousIP]
      exact hip
    case isFalse hdown =>
      have hrebuilt : ∀ (hask : m.asksRebuild c m.isHealthy = true),
          { m with previousIP := c.currentIP }.rebuildSender cfg c.rebuild = some m' →
            IPStep m m' c := by
        intro hask hc
        have hr := rebuilt_of_rebuildSender (m := { m with previousIP := c.currentIP }) h hc
        refine .rebuilt hask hr.wasOpen hr.ready hr.isOpen hr.isHealthy ?_ ?_
        · rw [hr.previousIP]
          exact hip
        · rw [hr.networkWasDown]
          exact Bool.eq_false_iff.mpr hdown
      split at hc
      case isTrue hprev => exact hrebuilt (by simp [asksRebuild, hip, hprev]) hc
      split at hc
      case isTrue hne => exact hrebuilt (by simp [asksRebuild, hip, hne]) hc
      case isFalse hprev heq =>
        rw [ne_eq, not_not] at heq
        split at hc
        case isTrue hhealthy =>
          rw [← Option.some.inj hc]
          refine .quiet ?_ hip rfl
          simp [asksRebuild, hdown, hip, heq, hhealthy]
        case isFalse hhealthy =>
          refine hrebuilt (by simp [asksRebuild, hip, hhealthy]) ?_
          rw [← heq]
          exact hc

/-- The egress check leaves the health flag that the rest of the cycle reads. -/
theorem EgressStep.isHealthy (h : EgressStep m m' c) : m'.isHealthy = m.healthyAtIP c := by
  rcases h with ⟨hsame, -, hhealth, -, -⟩ | ⟨hchanged, hr⟩
  · simp [healthyAtIP, hsame, hhealth]
  · simp [healthyAtIP, hchanged, hr.isHealthy]

theorem EgressStep.asksRebuild (h : EgressStep m m' c) :
    m'.asksRebuild c m'.isHealthy = m.asksRebuild c (m.healthyAtIP c) := by
  rw [h.isHealthy]
  rcases h with ⟨-, -, -, hip, hdown⟩ | ⟨-, hr⟩
  · rw [IPMonitor.asksRebuild, IPMonitor.asksRebuild, hip, hdown]
  · rw [IPMonitor.asksRebuild, IPMonitor.asksRebuild, hr.previousIP, hr.networkWasDown]

theorem EgressStep.previousIP (h : EgressStep m m' c) : m'.previousIP = m.previousIP := by
  rcases h with ⟨-, -, -, hip, -⟩ | ⟨-, hr⟩
  · exact hip
  · exact hr.previousIP

theorem EgressStep.senderOpen (h : EgressStep m m' c) :
    m'.SenderOpen ↔ if m.egressChanged c then c.egressRebuild.newNode = true else m.SenderOpen := by
  rcases h with ⟨hsame, hup, -, -, -⟩ | ⟨hchanged, hr⟩
  · rw [hsame, SenderOpen, hup]
    rfl
  · rw [hchanged, hr.isOpen]
    rfl

theorem EgressStep.networkWasDown (h : EgressStep m m' c) :
    m'.networkWasDown = m.networkWasDown := by
  rcases h with ⟨-, -, -, -, hdown⟩ | ⟨-, hr⟩
  · exact hdown
  · exact hr.networkWasDown

theorem EgressStep.ready (h : EgressStep m m' c) (hready : m.up.Ready) : m'.up.Ready := by
  rcases h with ⟨-, hup, -, -, -⟩ | ⟨-, hr⟩
  · rw [hup]
    exact hready
  · exact hr.ready

theorem IPStep.ready (h : IPStep m m' c) (hready : m.up.Ready) : m'.up.Ready := by
  rcases h with ⟨-, hup, -, -, -⟩ | ⟨-, -, hready', -, -, -, -⟩ | ⟨-, -, hsame⟩
  · rw [hup]
    exact hready
  · exact hready'
  · rw [hsame]
    exact hready

/-- With an IP, nothing asks for a rebuild just when everything is as it was and healthy. -/
theorem asksRebuild_eq_false (hip : c.currentIP ≠ "") {healthy : Bool} :
    m.asksRebuild c healthy = false ↔
      m.networkWasDown = false ∧ m.previousIP ≠ "" ∧ m.previousIP = c.currentIP ∧
        healthy = true := by
  simp [IPMonitor.asksRebuild, hip, and_assoc]

/-- A cycle that returns is its egress check and then the rest. -/
theorem checkIP_steps (h : m.up.Ready) (hc : m.checkIP cfg c = some m') :
    ∃ m₁, EgressStep m m₁ c ∧ IPStep m₁ m' c := by
  obtain ⟨m₁, hegress, hip⟩ := Option.bind_eq_some_iff.mp hc
  have hstep := egressStep h hegress
  exact ⟨m₁, hstep, ipStep (hstep.ready h) hip⟩

/-! ## A failed rebuild -/

/-- Some rebuild of the cycle fails to make a node. -/
def rebuildFails (m : IPMonitor) (c : IPCycle) : Bool :=
  m.egressChanged c && !c.egressRebuild.newNode ||
    m.asksRebuild c (m.healthyAtIP c) && !c.rebuild.newNode

/-- A failed rebuild finds the forwarder unhealthy, or the cycle has just lost the IP. -/
def MarksFailure (m : IPMonitor) (c : IPCycle) : Prop :=
  m.rebuildFails c = true →
    m.healthyAtIP c = false ∨ c.currentIP = "" ∧ m.networkWasDown = false

/-- The sender is open, or the forwarder is unhealthy, or no cycle has seen an IP yet, so that the
next one rebuilds. -/
def Served (m : IPMonitor) : Prop :=
  m.SenderOpen ∨ m.isHealthy = false ∨ m.previousIP = "" ∧ m.networkWasDown = false

theorem served_iff (h : m.up.Ready) (hm : m.Served) (hc : m.checkIP cfg c = some m') :
    m'.SenderOpen ∨ m'.isHealthy = false ↔ m.MarksFailure c := by
  obtain ⟨m₁, hegress, hip⟩ := checkIP_steps h hc
  have hhealth := hegress.isHealthy
  have hopen := hegress.senderOpen
  have hdown := hegress.networkWasDown
  have hprev := hegress.previousIP
  have hask := hegress.asksRebuild
  rw [MarksFailure, rebuildFails, ← hask]
  rcases hip with ⟨hlost, hup, -, hhealth', -⟩ | ⟨hask₁, hopen₁, -, hopen', hhealth', -, -⟩ |
    ⟨hask₁, hip, rfl⟩
  case lost =>
    have hno : m₁.asksRebuild c m₁.isHealthy = false := by simp [IPMonitor.asksRebuild, hlost]
    have hup' : m'.SenderOpen ↔ m₁.SenderOpen := by rw [SenderOpen, hup, SenderOpen]
    rw [hno, hup', hopen, hhealth', hhealth, hdown]
    rw [Served] at hm
    rcases hch : m.egressChanged c <;> rcases hd : m.networkWasDown <;>
      rcases hn : c.egressRebuild.newNode <;> simp_all [healthyAtIP]
  case rebuilt =>
    have hcur : c.currentIP ≠ "" := by
      intro hlost
      simp [IPMonitor.asksRebuild, hlost] at hask₁
    rw [hask₁, hopen', hhealth', ← hhealth]
    rw [hopen] at hopen₁
    rcases hch : m.egressChanged c <;> rcases hn : c.rebuild.newNode <;> simp_all
  case quiet =>
    obtain ⟨hcalm, hseen, -, hwell⟩ := (asksRebuild_eq_false hip).mp hask₁
    rw [hask₁, hopen, hwell]
    rw [Served] at hm
    rcases hch : m.egressChanged c <;> rcases hn : c.egressRebuild.newNode <;>
      simp_all [healthyAtIP]

end IPMonitor

/-! ## Runs -/

section Run

variable {cfg : UplinkConf} {m m' : IPMonitor} {e : MonitorEvent}

/-- What an event can do: move `NewWithVPN` or the tunnel, run a cycle, or set the health flag. -/
theorem monitorMachine_cases (hstep : (monitorMachine cfg).step m e = some m') :
    (∃ u up, (∀ p, u ≠ .party p) ∧ (uplinkMachine cfg).step m.up u = some up ∧
      { m with up := up } = m' ∧ e.isAuth = false ∧ ∀ c, e ≠ .cycle c) ∨
    (∃ c, e = .cycle c ∧ m.up.boot = .done ∧ m.checkIP cfg c = some m') ∨
    (∃ healthy, e.isAuth = true ∧ { m with isHealthy := healthy } = m' ∧
      (healthy = true → m.isHealthy = true ∨ e = .sessionRestored)) := by
  rcases e with ok | v | c | _ | cause | _ <;> dsimp only [monitorMachine] at hstep
  case boot =>
    obtain ⟨up, hup, rfl⟩ := Option.map_eq_some_iff.mp hstep
    exact .inl ⟨.boot ok, up, by simp, hup, rfl, rfl, by simp⟩
  case vpn =>
    obtain ⟨up, hup, rfl⟩ := Option.map_eq_some_iff.mp hstep
    exact .inl ⟨.vpn v, up, by simp, hup, rfl, rfl, by simp⟩
  case cycle =>
    obtain ⟨hdone, hc⟩ := Option.ite_none_right_eq_some.mp hstep
    exact .inr (.inl ⟨c, rfl, hdone, hc⟩)
  case networkError => exact .inr (.inr ⟨_, rfl, Option.some.inj hstep, by simp⟩)
  case disconnectCause =>
    exact .inr (.inr ⟨_, rfl, Option.some.inj hstep, fun h ↦ .inl (Bool.and_eq_true_iff.mp h).1⟩)
  case sessionRestored => exact .inr (.inr ⟨_, rfl, Option.some.inj hstep, fun _ ↦ .inr rfl⟩)

/-- `NewWithVPN` is under way, or it has returned and nobody replaces the sender between the cycles.
-/
structure IPMonitor.Live (m : IPMonitor) : Prop where
  booting : m.up.boot ≠ .done → m.up.OwnInv ∧ m.up.crashed = false
  ready : m.up.boot = .done → m.up.Ready

theorem IPMonitor.live_new (cfg : UplinkConf) (vpn : Manager) : (new cfg vpn).Live :=
  ⟨fun _ ↦ ⟨Uplink.ownInv_new cfg vpn, rfl⟩, nofun⟩

/-- `NewWithVPN` closes only the sender that `New` has made, and only once. -/
theorem Uplink.OwnInv.boot_step {s s' : Uplink} (h : s.OwnInv) (hidle : ∀ i, s.builders i = .idle)
    (hcr : s.crashed = false) {ok : Bool}
    (hstep : (uplinkMachine cfg).step s (.boot ok) = some s') : s'.crashed = false := by
  have hrun : (uplinkMachine cfg).run s [.boot ok] = some s' :=
    Machine.run_cons_eq_some.mpr ⟨s', hstep, rfl⟩
  have hout : ∀ a n, s.slot.phase a ≠ .closing n := by
    intro a n ha
    obtain ⟨i, -, hi⟩ := closing_slot.mp ha
    exact absurd hi (by simp [hidle i])
  have hsafe : s.slot.Safe := ⟨h.crashed.not.mp (by simp [hcr]), fun a n ha ↦ absurd ha (hout a n),
    fun a b n ha ↦ absurd ha (hout a n)⟩
  have hsafe' : s'.slot.Safe := (h.safe_run hrun).mpr ⟨hsafe, Machine.along_singleton.mpr trivial⟩
  exact Bool.eq_false_iff.mpr ((h.step hstep).crashed.not.mpr hsafe'.once)

theorem Uplink.OwnInv.ready {s : Uplink} (h : s.OwnInv) (hdone : s.boot = .done)
    (hidle : ∀ i, s.builders i = .idle) (hcr : s.crashed = false) : s.Ready := by
  refine ⟨hdone, hcr, hidle, ?_⟩
  rw [← length_slot]
  exact (h.coherent.inv (h.crashed.not.mp (by simp [hcr]))).current_lt

theorem IPMonitor.Live.uplink_step (h : m.Live) {u : UplinkEvent} (hu : ∀ p, u ≠ .party p)
    {up : Uplink} (hstep : (uplinkMachine cfg).step m.up u = some up) :
    IPMonitor.Live { m with up := up } := by
  obtain ⟨hcr, hcase⟩ := uplinkMachine_step_eq_some.mp hstep
  rcases hcase with ⟨v, rfl, rfl⟩ | ⟨ok, rfl, hboot⟩ | ⟨p, rfl, -, -⟩
  · refine ⟨fun hb ↦ ⟨(h.booting hb).1.step hstep, hcr⟩, fun hb ↦ ?_⟩
    have hr := h.ready hb
    exact ⟨hr.boot, hr.crashed, hr.builders, hr.sender⟩
  · obtain ⟨hbuilders, hnot, -⟩ := Uplink.bootStep_early hboot
    have hown := (h.booting hnot).1
    have hidle := hown.idle hnot
    have hcr' := hown.boot_step hidle hcr hstep
    refine ⟨fun _ ↦ ⟨hown.step hstep, hcr'⟩, fun hb ↦ ?_⟩
    exact (hown.step hstep).ready hb (fun i ↦ by rw [hbuilders, hidle i]) hcr'
  · exact absurd rfl (hu p)

theorem IPMonitor.Live.step (h : m.Live) (hstep : (monitorMachine cfg).step m e = some m') :
    m'.Live := by
  rcases monitorMachine_cases hstep with ⟨u, up, hu, hup, rfl, -, -⟩ | ⟨c, -, hdone, hc⟩ |
    ⟨healthy, -, rfl, -⟩
  · exact h.uplink_step hu hup
  · have hr := h.ready hdone
    obtain ⟨m₁, hegress, hip⟩ := checkIP_steps hr hc
    have hr' := hip.ready (hegress.ready hr)
    exact ⟨fun hb ↦ absurd hr'.boot hb, fun _ ↦ hr'⟩
  · exact ⟨h.booting, h.ready⟩

/-! ### The sender after a cycle -/

/-- A rebuild that fails is marked, and no session is restored over a closed sender. -/
def IPMonitor.Marks (m : IPMonitor) : MonitorEvent → Prop
  | .cycle c => m.MarksFailure c
  | .sessionRestored => m.SenderOpen
  | _ => True

/-- The invariant of runs in which failed rebuilds are marked. While `NewWithVPN` runs no cycle has
run. -/
structure IPMonitor.ServedInv (m : IPMonitor) : Prop where
  live : m.Live
  early : m.up.boot ≠ .done → m.previousIP = "" ∧ m.networkWasDown = false
  served : m.Served

/-- Once `NewWithVPN` has returned only the tunnel moves, and it does not touch the sender. -/
theorem Uplink.sameSender_of_done {s s' : Uplink} (hdone : s.boot = .done) {u : UplinkEvent}
    (hu : ∀ p, u ≠ .party p) (hstep : (uplinkMachine cfg).step s u = some s') :
    s.SameSender s' := by
  obtain ⟨-, hcase⟩ := uplinkMachine_step_eq_some.mp hstep
  rcases hcase with ⟨v, rfl, rfl⟩ | ⟨ok, rfl, hboot⟩ | ⟨p, rfl, -, -⟩
  · exact ⟨rfl, rfl, rfl, rfl, rfl, rfl⟩
  · exact absurd hdone (bootStep_early hboot).2.1
  · exact absurd rfl (hu p)

theorem IPMonitor.ServedInv.uplink_step (h : m.ServedInv) {u : UplinkEvent}
    (hu : ∀ p, u ≠ .party p) {up : Uplink} (hstep : (uplinkMachine cfg).step m.up u = some up) :
    IPMonitor.ServedInv { m with up := up } := by
  refine ⟨h.live.uplink_step hu hstep, ?_, ?_⟩
  · intro hboot
    apply h.early
    intro hdone
    exact hboot ((Uplink.sameSender_of_done hdone hu hstep).boot.trans hdone)
  · by_cases hdone : m.up.boot = .done
    · have hsame := Uplink.sameSender_of_done hdone hu hstep
      have hopen : SenderOpen { m with up := up } ↔ m.SenderOpen := by
        rw [SenderOpen, SenderOpen, Uplink.Open, hsame.nodes, hsame.sender]
        rfl
      exact h.served.imp_left hopen.mpr
    · exact .inr (.inr (h.early hdone))

theorem IPMonitor.ServedInv.step (h : m.ServedInv) (hmarks : m.Marks e)
    (hstep : (monitorMachine cfg).step m e = some m') : m'.ServedInv := by
  have hlive := h.live.step hstep
  rcases monitorMachine_cases hstep with ⟨u, up, hu, hup, rfl, -, -⟩ | ⟨c, rfl, hdone, hc⟩ |
    ⟨healthy, -, rfl, hhealthy⟩
  · exact h.uplink_step hu hup
  · have hiff := served_iff (h.live.ready hdone) h.served hc
    have hdone' : m'.up.boot = .done := by
      obtain ⟨m₁, hegress, hip⟩ := checkIP_steps (h.live.ready hdone) hc
      exact (hip.ready (hegress.ready (h.live.ready hdone))).boot
    exact ⟨hlive, fun hb ↦ absurd hdone' hb, (hiff.mpr hmarks).imp_right .inl⟩
  · refine ⟨hlive, h.early, ?_⟩
    rcases h.served with hopen | hsick | hfresh
    · exact .inl hopen
    · rcases healthy with _ | _
      · exact .inr (.inl rfl)
      · rcases hhealthy rfl with hwell | rfl
        · exact absurd hwell (by simp [hsick])
        · exact .inl hmarks
    · exact .inr (.inr hfresh)

theorem IPMonitor.servedInv_of_run {vpn : Manager} {es : List MonitorEvent}
    (hmarks : (monitorMachine cfg).Along IPMonitor.Marks (.new cfg vpn) es)
    (hrun : (monitorMachine cfg).run (.new cfg vpn) es = some m) : m.ServedInv := by
  have h₀ : (IPMonitor.new cfg vpn).ServedInv :=
    ⟨live_new cfg vpn, fun _ ↦ ⟨rfl, rfl⟩, .inr (.inr ⟨rfl, rfl⟩)⟩
  exact Machine.invariant_along (fun _ _ _ h hP hstep ↦ h.step hP hstep) h₀ hmarks hrun

end Run

/-- **The sender after a cycle.** If every failed rebuild was marked and no session was restored
over a closed sender, the next cycle leaves the sender open or the forwarder unhealthy if and only
if it marks its failures too. -/
theorem checkIP_sender_open_or_unhealthy_iff {cfg : UplinkConf} {vpn : Manager}
    {es : List MonitorEvent} {m m' : IPMonitor} {c : IPCycle}
    (hrun : (monitorMachine cfg).run (.new cfg vpn) es = some m)
    (hmarks : (monitorMachine cfg).Along IPMonitor.Marks (.new cfg vpn) es)
    (hcycle : (monitorMachine cfg).step m (.cycle c) = some m') :
    m'.SenderOpen ∨ m'.isHealthy = false ↔
      (m.rebuildFails c = true →
        m.healthyAtIP c = false ∨ c.currentIP = "" ∧ m.networkWasDown = false) := by
  have hinv := IPMonitor.servedInv_of_run hmarks hrun
  obtain ⟨hdone, hc⟩ := Option.ite_none_right_eq_some.mp hcycle
  exact IPMonitor.served_iff (hinv.live.ready hdone) hinv.served hc

/-- The first cycle binds the sender anew. -/
theorem checkIP_sender_open_or_unhealthy_bound :
    ∃ m', (monitorMachine ⟨"server:14550", false⟩).run
        (.new ⟨"server:14550", false⟩ ⟨none, none, false⟩)
        [.boot true, .cycle ⟨none, ⟨true, true⟩, "192.168.1.5", ⟨true, true⟩⟩] = some m' ∧
      (m'.SenderOpen ∨ m'.isHealthy = false) := by
  obtain ⟨m, hrun, hfails, m', hcycle⟩ : ∃ m, (monitorMachine ⟨"server:14550", false⟩).run
      (.new ⟨"server:14550", false⟩ ⟨none, none, false⟩) [.boot true] = some m ∧
      m.rebuildFails ⟨none, ⟨true, true⟩, "192.168.1.5", ⟨true, true⟩⟩ = false ∧
      ∃ m', (monitorMachine ⟨"server:14550", false⟩).step m
        (.cycle ⟨none, ⟨true, true⟩, "192.168.1.5", ⟨true, true⟩⟩) = some m' :=
    ⟨_, rfl, rfl, _, rfl⟩
  refine ⟨m', Machine.run_append_eq_some.mpr ⟨m, hrun, ?_⟩, ?_⟩
  · exact Machine.run_cons_eq_some.mpr ⟨m', hcycle, rfl⟩
  · refine (checkIP_sender_open_or_unhealthy_iff hrun (Machine.along_singleton.mpr trivial)
      hcycle).mpr fun hf ↦ ?_
    exact absurd hf (by simp [hfails])

/-- The IP changes and `NewNode` fails: the sender is closed, the forwarder healthy, and the next
cycle, with the same IP, does not try again. -/
theorem checkIP_closed_sender_healthy :
    ∃ m, (monitorMachine ⟨"server:14550", false⟩).run
        (.new ⟨"server:14550", false⟩ ⟨none, none, false⟩)
        [.boot true, .cycle ⟨none, ⟨true, true⟩, "192.168.1.5", ⟨true, true⟩⟩,
          .cycle ⟨none, ⟨true, true⟩, "192.168.1.6", ⟨true, false⟩⟩,
          .cycle ⟨none, ⟨true, true⟩, "192.168.1.6", ⟨true, true⟩⟩] = some m ∧
      m.up.sender = 1 ∧ m.up.nodes.map (·.closes) = [1, 1] ∧ m.isHealthy = true :=
  ⟨_, rfl, rfl, rfl, rfl⟩

/-! ## Without an IP -/

/-- A cycle without an IP, in a period without one, does not rebuild the sender for a new egress. -/
def IPMonitor.StaysDown (m : IPMonitor) : MonitorEvent → Prop
  | .cycle c => c.currentIP = "" → m.networkWasDown = true → m.egressChanged c = true →
    c.egressRebuild.newNode = false
  | _ => True

instance (m : IPMonitor) : ∀ e, Decidable (m.StaysDown e)
  | .cycle c => inferInstanceAs (Decidable (c.currentIP = "" → m.networkWasDown = true →
    m.egressChanged c = true → c.egressRebuild.newNode = false))
  | .boot _ | .vpn _ | .networkError | .disconnectCause _ | .sessionRestored => .isTrue trivial

/-- A cycle without an IP returns with an unhealthy forwarder. -/
def IPMonitor.LostIsUnhealthy (cfg : UplinkConf) (m : IPMonitor) : MonitorEvent → Prop
  | .cycle c => c.currentIP = "" →
    ∀ m', (monitorMachine cfg).step m (.cycle c) = some m' → m'.isHealthy = false
  | _ => True

section Down

variable {cfg : UplinkConf} {m m' : IPMonitor} {c : IPCycle} {e : MonitorEvent}

theorem IPMonitor.isHealthy_of_lost (h : m.up.Ready) (hc : m.checkIP cfg c = some m')
    (hlost : c.currentIP = "") :
    m'.isHealthy = (m.networkWasDown && m.healthyAtIP c) ∧ m'.networkWasDown = true := by
  obtain ⟨m₁, hegress, hip⟩ := checkIP_steps h hc
  rcases hip with ⟨-, -, -, hhealth, hdown⟩ | ⟨hask, -, -, -, -, -, -⟩ | ⟨-, hip, -⟩
  · rw [hhealth, hegress.networkWasDown, hegress.isHealthy]
    exact ⟨rfl, hdown⟩
  · exact absurd hask (by simp [asksRebuild, hlost])
  · exact absurd hlost hip

theorem IPMonitor.networkWasDown_of_found (h : m.up.Ready) (hc : m.checkIP cfg c = some m')
    (hfound : c.currentIP ≠ "") : m'.networkWasDown = false := by
  obtain ⟨m₁, hegress, hip⟩ := checkIP_steps h hc
  rcases hip with ⟨hlost, -, -, -, -⟩ | ⟨-, -, -, -, -, -, hdown⟩ | ⟨hask, -, rfl⟩
  · exact absurd hlost hfound
  · exact hdown
  · exact ((asksRebuild_eq_false hfound).mp hask).1

/-- While the network is down the forwarder is unhealthy. -/
structure IPMonitor.DownInv (m : IPMonitor) : Prop where
  live : m.Live
  unhealthy : m.networkWasDown = true → m.isHealthy = false

/-- In such a state the two conditions on a step are the same. -/
theorem IPMonitor.DownInv.lost_iff (h : m.DownInv)
    (hstep : (monitorMachine cfg).step m e = some m') :
    m.LostIsUnhealthy cfg e ↔ m.StaysDown e := by
  rcases e with ok | v | c | _ | cause | _
  case cycle =>
    obtain ⟨hdone, hc⟩ := Option.ite_none_right_eq_some.mp hstep
    rw [LostIsUnhealthy, StaysDown]
    refine imp_congr_right fun hlost ↦ ?_
    have hhealth := (isHealthy_of_lost (h.live.ready hdone) hc hlost).1
    have hall : (∀ n, (monitorMachine cfg).step m (.cycle c) = some n → n.isHealthy = false) ↔
        m'.isHealthy = false := by
      constructor
      · exact fun hall ↦ hall m' hstep
      · intro hm' n hn
        rw [hstep, Option.some.injEq] at hn
        exact hn ▸ hm'
    rw [hall, hhealth, healthyAtIP]
    rcases hd : m.networkWasDown
    · simp
    · rw [h.unhealthy hd]
      rcases m.egressChanged c <;> simp
  all_goals exact Iff.rfl

theorem IPMonitor.DownInv.step (h : m.DownInv) (hstay : m.StaysDown e) (hauth : e.isAuth = false)
    (hstep : (monitorMachine cfg).step m e = some m') : m'.DownInv := by
  refine ⟨h.live.step hstep, ?_⟩
  rcases monitorMachine_cases hstep with ⟨u, up, -, -, rfl, -, -⟩ | ⟨c, rfl, hdone, hc⟩ |
    ⟨healthy, hauth', -, -⟩
  · exact h.unhealthy
  · intro hdown
    by_cases hlost : c.currentIP = ""
    · exact ((h.lost_iff hstep).mpr hstay) hlost m' hstep
    · rw [networkWasDown_of_found (h.live.ready hdone) hc hlost] at hdown
      exact absurd hdown (by decide)
  · exact absurd hauth' (by simp [hauth])

theorem IPMonitor.DownInv.along_iff (h : m.DownInv) {es : List MonitorEvent}
    (hauth : ∀ e ∈ es, e.isAuth = false) (hrun : (monitorMachine cfg).run m es = some m') :
    (monitorMachine cfg).Along (LostIsUnhealthy cfg) m es ↔
      (monitorMachine cfg).Along StaysDown m es := by
  induction es generalizing m with
  | nil => exact Iff.rfl
  | cons e es ih =>
    obtain ⟨n, hn, hes⟩ := Machine.run_cons_eq_some.mp hrun
    rw [Machine.along_cons hn, Machine.along_cons hn, h.lost_iff hn]
    apply and_congr_right
    intro hstay
    exact ih (h.step hstay (hauth e List.mem_cons_self) hn)
      (fun f hf ↦ hauth f (List.mem_cons_of_mem e hf)) hes

end Down

/-- **Health without an IP.** Every cycle that finds no IP returns with an unhealthy forwarder if
and only if no cycle that finds the network still down rebuilds the sender for a new egress. -/
theorem lost_ip_unhealthy_iff {cfg : UplinkConf} {vpn : Manager} {es : List MonitorEvent}
    {m : IPMonitor} (hrun : (monitorMachine cfg).run (.new cfg vpn) es = some m)
    (hauth : ∀ e ∈ es, e.isAuth = false) :
    (monitorMachine cfg).Along (IPMonitor.LostIsUnhealthy cfg) (.new cfg vpn) es ↔
      (monitorMachine cfg).Along IPMonitor.StaysDown (.new cfg vpn) es := by
  have h₀ : (IPMonitor.new cfg vpn).DownInv := ⟨IPMonitor.live_new cfg vpn, nofun⟩
  exact h₀.along_iff hauth hrun

/-- The network is lost and comes back with the same IP. -/
theorem lost_ip_unhealthy_restored :
    (monitorMachine ⟨"server:14550", false⟩).Along
      (IPMonitor.LostIsUnhealthy ⟨"server:14550", false⟩)
      (.new ⟨"server:14550", false⟩ ⟨none, none, false⟩)
      [.boot true, .cycle ⟨some ("wlan0", "192.168.1.5"), ⟨true, true⟩, "", ⟨true, true⟩⟩,
        .cycle ⟨none, ⟨true, true⟩, "192.168.1.5", ⟨true, true⟩⟩] := by
  have hrun : (monitorMachine ⟨"server:14550", false⟩).run
      (.new ⟨"server:14550", false⟩ ⟨none, none, false⟩)
      [.boot true, .cycle ⟨some ("wlan0", "192.168.1.5"), ⟨true, true⟩, "", ⟨true, true⟩⟩,
        .cycle ⟨none, ⟨true, true⟩, "192.168.1.5", ⟨true, true⟩⟩] = some _ := rfl
  exact (lost_ip_unhealthy_iff hrun (by decide)).mpr (by decide)

/-- The network is down when the egress moves from one interface to another: the rebuild for the
new egress makes the forwarder healthy, and the cycle finds no IP. -/
theorem lost_ip_healthy :
    ∃ m m', (monitorMachine ⟨"server:14550", false⟩).run
        (.new ⟨"server:14550", false⟩ ⟨none, none, false⟩)
        [.boot true, .cycle ⟨some ("wlan0", "192.168.1.5"), ⟨true, true⟩, "", ⟨true, true⟩⟩] =
          some m ∧ m.isHealthy = false ∧
      (monitorMachine ⟨"server:14550", false⟩).step m
        (.cycle ⟨some ("wwan0", "10.64.0.7"), ⟨true, true⟩, "", ⟨true, true⟩⟩) = some m' ∧
      m'.isHealthy = true :=
  ⟨_, _, rfl, rfl, rfl, rfl⟩

end DroneBridge
