import DroneBridge.Lib.Machine
import DroneBridge.Vpn.Manager

/-!
# How the tunnel comes up

`main` starts one goroutine for the cloud side: `runAuthWhenReady` authenticates, over and over in
`startAuthWithRetry` if the first attempt fails, then asks the server for a tunnel configuration,
starts the tunnel and rebinds the sender. If the status file did not name an egress at first, a
second goroutine, `watchCloudAndRebind`, waits for one and rebinds the sender too.

What must not happen twice is a matter of control flow only. `RequestVPNProvisioning` closes
`vpnReadyCh` without looking whether it is closed, `Start` of the client spawns a keepalive loop,
and `Start` of the manager makes a device. Each of the three comes after an authentication that
succeeded, of which there is one (`startup_once`). The price is that a tunnel which fails to start
is not started again for as long as the process runs.
-/

namespace DroneBridge

/-- Where the goroutine of `runAuthWhenReady` is, named by the call it makes next. -/
inductive StartupPoint
  /-- `PhysicalEgress`. -/
  | readEgress
  /-- `Start` of the client. -/
  | authenticate
  /-- `startAuthWithRetry` between two attempts. -/
  | sleeping
  | requestVPNProvisioning
  | closeReady
  | isRunning
  | stopTunnel
  | startTunnel
  | rebindUplink
  | returned
  /-- `close` of a closed channel. -/
  | panicked
  deriving DecidableEq, Repr

inductive WatcherPoint
  | absent
  /-- At its ticker; the tick reads the egress. -/
  | waiting
  | isRunning
  | rebindUplink
  | returned
  deriving DecidableEq, Repr

/-- Who calls `RebindUplink`, by the reason it gives. -/
inductive RebindReason
  | postAuthVpnReady
  | authRetryVpnReady
  | cloudReady
  deriving DecidableEq, Repr

structure Startup where
  point : StartupPoint
  /-- The goroutine is in `startAuthWithRetry`. -/
  retrying : Bool
  watcher : WatcherPoint
  /-- The client's `running`. -/
  running : Bool
  /-- When the stored session expires, if there is one. -/
  session : Option ℕ
  vpn : Manager
  /-- `vpnReadyCh` is closed. -/
  readyClosed : Bool
  /-- The keepalive loops that were spawned. -/
  keepaliveLoops : ℕ
  /-- The authentications the server accepted. -/
  accepted : ℕ
  /-- The devices that were brought up. -/
  tunnels : ℕ
  /-- The calls of `RebindUplink`, each with whether the tunnel was up. -/
  rebinds : List (RebindReason × Bool)
  deriving DecidableEq, Repr

inductive StartupEvent
  | readEgress (ready : Bool)
  /-- `Start` at `now`; `reply` is the expiry of the session the server grants. Nothing but this
  goroutine writes the session or `running` before it has returned, except `Stop`. -/
  | authenticate (now : ℕ) (reply : Option ℕ)
  | wake
  /-- `reply` is the configuration of a success reply, and whether it could be written. -/
  | requestVPNProvisioning (reply : Option (VPNConfig × Bool))
  | closeReady
  | isRunning
  | stopTunnel
  | startTunnel (up : Bool)
  | rebindUplink
  | watcherTick (ready : Bool)
  | watcherIsRunning
  | watcherRebindUplink
  /-- `Stop` of the client, when the process is told to end. -/
  | stopClient
  deriving DecidableEq, Repr

namespace Startup

/-- `NewClient` and `NewManager` have been called, and the goroutine is started. -/
def boot (file : Option VPNConfig) : Startup where
  point := .readEgress
  retrying := false
  watcher := .absent
  running := false
  session := none
  vpn := { config := none, file, running := false }
  readyClosed := false
  keepaliveLoops := 0
  accepted := 0
  tunnels := 0
  rebinds := []

variable (s : Startup)

/-- The stored session is valid. -/
def hasValidSession (now : ℕ) : Bool := s.session.any (now < ·)

/-- The end of `Start`: the client runs, and the keepalive loop is spawned. -/
def beginKeepalive : Startup :=
  { s with running := true, keepaliveLoops := s.keepaliveLoops + 1,
           point := .requestVPNProvisioning }

/-- `Start` of the client, with what its caller does with the result. -/
def start (now : ℕ) (reply : Option ℕ) : Startup :=
  if s.running then { s with point := .requestVPNProvisioning }
  else if s.hasValidSession now then s.beginKeepalive
  else
    match reply with
    | none => { s with point := .sleeping, retrying := true }
    | some expiresAt =>
      beginKeepalive { s with session := some expiresAt, accepted := s.accepted + 1 }

/-- `RequestVPNProvisioning`, up to the channel. An error is logged only. -/
def requestVPNProvisioning (reply : Option (VPNConfig × Bool)) : Startup :=
  match reply with
  | some (cfg, true) =>
    { s with vpn := s.vpn.saveProvisionedConfig cfg true, point := .closeReady }
  | _ => { s with point := .isRunning }

def closeReady : Startup :=
  if s.readyClosed then { s with point := .panicked }
  else { s with readyClosed := true, point := .isRunning }

/-- `Start` of the manager. After an error there is nothing to rebind. -/
def startTunnel (up : Bool) : Startup :=
  let vpn := s.vpn.start up
  { s with vpn
           tunnels := if !s.vpn.running && vpn.running then s.tunnels + 1 else s.tunnels
           point := if vpn.running then .rebindUplink else .returned }

def reason : RebindReason := if s.retrying then .authRetryVpnReady else .postAuthVpnReady

def step : Startup → StartupEvent → Option Startup
  | s, .readEgress ready =>
    if s.point = .readEgress then
      some { s with point := .authenticate, watcher := if ready then .absent else .waiting }
    else none
  | s, .authenticate now reply =>
    if s.point = .authenticate then some (s.start now reply) else none
  | s, .wake => if s.point = .sleeping then some { s with point := .authenticate } else none
  | s, .requestVPNProvisioning reply =>
    if s.point = .requestVPNProvisioning then some (s.requestVPNProvisioning reply) else none
  | s, .closeReady => if s.point = .closeReady then some s.closeReady else none
  | s, .isRunning =>
    if s.point = .isRunning then
      some { s with point := if s.vpn.isRunning then .stopTunnel else .startTunnel }
    else none
  | s, .stopTunnel =>
    if s.point = .stopTunnel then some { s with vpn := s.vpn.stop, point := .startTunnel }
    else none
  | s, .startTunnel up => if s.point = .startTunnel then some (s.startTunnel up) else none
  | s, .rebindUplink =>
    if s.point = .rebindUplink then
      some { s with rebinds := s.rebinds ++ [(s.reason, s.vpn.isRunning)], point := .returned }
    else none
  | s, .watcherTick ready =>
    if s.watcher = .waiting then
      some { s with watcher := if ready then .isRunning else .waiting }
    else none
  | s, .watcherIsRunning =>
    if s.watcher = .isRunning then
      some { s with watcher := if s.vpn.isRunning then .rebindUplink else .waiting }
    else none
  | s, .watcherRebindUplink =>
    if s.watcher = .rebindUplink then
      some { s with rebinds := s.rebinds ++ [(.cloudReady, s.vpn.isRunning)], watcher := .returned }
    else none
  | s, .stopClient => some { s with running := false }

end Startup

def startupMachine : Machine Startup StartupEvent := ⟨Startup.step⟩

/-! ## What each point of the goroutine has behind it -/

/-- How far the goroutine has come. The attempts to authenticate are one stage. -/
def StartupPoint.stage : StartupPoint → ℕ
  | readEgress | authenticate | sleeping => 0
  | requestVPNProvisioning => 1
  | closeReady => 2
  | isRunning | stopTunnel => 3
  | startTunnel => 4
  | rebindUplink => 5
  | returned | panicked => 6

namespace Startup

/-- The calls of `RebindUplink` that have been made. -/
def rebound (s : Startup) : List (RebindReason × Bool) :=
  (if s.point = .returned ∧ s.vpn.running = true then [(s.reason, true)] else []) ++
    if s.watcher = .returned then [(.cloudReady, true)] else []

structure Inv (s : Startup) : Prop where
  /-- The tunnel is not up yet where it would be stopped first. -/
  alive : s.point ≠ .panicked ∧ s.point ≠ .stopTunnel
  unauthenticated : s.point.stage = 0 → s.running = false ∧ s.session = none
  accepted : s.accepted = if s.point.stage = 0 then 0 else 1
  keepaliveLoops : s.keepaliveLoops = s.accepted
  readyClosed : s.readyClosed = true → 3 ≤ s.point.stage
  tunnels : s.tunnels = if s.vpn.running then 1 else 0
  up : s.vpn.running = true → 5 ≤ s.point.stage
  rebinding : s.point = .rebindUplink → s.vpn.running = true
  watching : s.watcher = .rebindUplink ∨ s.watcher = .returned → s.vpn.running = true
  rebinds : s.rebinds.Perm s.rebound

theorem inv_boot (file : Option VPNConfig) : (boot file).Inv where
  alive := ⟨nofun, nofun⟩
  unauthenticated := fun _ ↦ ⟨rfl, rfl⟩
  accepted := rfl
  keepaliveLoops := rfl
  readyClosed := nofun
  tunnels := rfl
  up := nofun
  rebinding := nofun
  watching := by rintro (h | h) <;> cases h
  rebinds := .refl _

variable {s s' : Startup} {e : StartupEvent}

theorem Inv.down (h : s.Inv) (hstage : s.point.stage < 5) : s.vpn.running = false :=
  Bool.eq_false_iff.mpr fun hup ↦ absurd (h.up hup) (Nat.not_le.mpr hstage)

/-- There is no session to reuse, so that an attempt is what the server answers. -/
theorem Inv.start (h : s.Inv) (hpoint : s.point = .authenticate) (now : ℕ) (reply : Option ℕ) :
    (s.start now reply).Inv := by
  have hstage : s.point.stage = 0 := by rw [hpoint]; rfl
  obtain ⟨hrunning, hsession⟩ := h.unauthenticated hstage
  have haccepted : s.accepted = 0 := by rw [h.accepted, if_pos hstage]
  have hdown := h.down (by rw [hstage]; decide)
  obtain ⟨-, -, -, hloops, hready, htunnels, -, -, hwatching, hrebinds⟩ := h
  cases reply with
  | none =>
    rw [Startup.start, if_neg (by simp [hrunning]), if_neg (by simp [hasValidSession, hsession])]
    constructor <;> grind [StartupPoint.stage, rebound]
  | some expiresAt =>
    rw [Startup.start, if_neg (by simp [hrunning]), if_neg (by simp [hasValidSession, hsession])]
    constructor <;> grind [StartupPoint.stage, rebound, beginKeepalive]

/-- The channel is closed here only, so that it is still open. -/
theorem Inv.closeReady (h : s.Inv) (hpoint : s.point = .closeReady) : s.closeReady.Inv := by
  have hopen : s.readyClosed = false := by
    cases hclosed : s.readyClosed with
    | false => rfl
    | true => exact absurd (h.readyClosed hclosed) (by rw [hpoint]; decide)
  rw [Startup.closeReady, if_neg (by simp [hopen])]
  obtain ⟨-, -, haccepted, hloops, -, htunnels, hup, -, hwatching, hrebinds⟩ := h
  constructor <;> grind [StartupPoint.stage, rebound]

/-- The tunnel was not up before, and the goroutine goes on to the rebind only if it is now. -/
theorem Inv.startTunnel (h : s.Inv) (hpoint : s.point = .startTunnel) (up : Bool) :
    (s.startTunnel up).Inv := by
  have hdown := h.down (by rw [hpoint]; decide)
  obtain ⟨-, -, haccepted, hloops, hready, htunnels, -, -, hwatching, hrebinds⟩ := h
  cases hvpn : (s.vpn.start up).running with
  | false =>
    constructor <;> grind [StartupPoint.stage, rebound, Startup.startTunnel]
  | true =>
    constructor <;> grind [StartupPoint.stage, rebound, Startup.startTunnel]

theorem Inv.rebindUplink (h : s.Inv) (hpoint : s.point = .rebindUplink) :
    Inv { s with rebinds := s.rebinds ++ [(s.reason, s.vpn.isRunning)], point := .returned } := by
  have hup := h.rebinding hpoint
  have hrebinds : s.rebinds.Perm (if s.watcher = .returned then [(.cloudReady, true)] else []) := by
    simpa [rebound, hpoint] using h.rebinds
  obtain ⟨-, -, haccepted, hloops, hready, htunnels, -, -, hwatching, -⟩ := h
  constructor
  case rebinds =>
    simp only [rebound, hup, Manager.isRunning, and_self, if_true]
    exact (hrebinds.append_right _).trans List.perm_append_comm
  all_goals grind [StartupPoint.stage]

theorem Inv.watcherRebindUplink (h : s.Inv) (hwatcher : s.watcher = .rebindUplink) :
    Inv { s with rebinds := s.rebinds ++ [(.cloudReady, s.vpn.isRunning)],
                 watcher := .returned } := by
  have hup := h.watching (.inl hwatcher)
  have hrebinds := h.rebinds
  obtain ⟨halive, hfirst, haccepted, hloops, hready, htunnels, hstage, hrebinding, -, -⟩ := h
  constructor
  case rebinds =>
    simp only [rebound, hwatcher, Manager.isRunning, hup, if_true] at hrebinds ⊢
    simpa [reason] using hrebinds.append_right _
  all_goals grind [StartupPoint.stage]

/-- A move of the goroutine that is neither the one out of the attempts nor one to the end. -/
def Onward (p q : StartupPoint) : Prop :=
  p.stage ≤ q.stage ∧ (q.stage = 0 ↔ p.stage = 0) ∧ q.stage < 5 ∧ q ≠ .stopTunnel

instance (p q : StartupPoint) : Decidable (Onward p q) :=
  inferInstanceAs (Decidable (_ ∧ _ ∧ _ ∧ _))

theorem Inv.goto (h : s.Inv) {p q : StartupPoint} (hpoint : s.point = p) (hmove : Onward p q) :
    Inv { s with point := q } := by
  subst hpoint
  obtain ⟨hle, hzero, hlast, hstop⟩ := hmove
  have hafter : ∀ r : StartupPoint, 5 ≤ r.stage → q ≠ r := by
    rintro r hr rfl
    exact absurd hlast (Nat.not_lt.mpr hr)
  have hbefore : s.point ≠ .returned := by
    intro heq
    rw [heq] at hle
    exact absurd hle (Nat.not_le.mpr (Nat.lt_trans hlast (by decide)))
  constructor
  case alive => exact ⟨hafter _ (by decide), hstop⟩
  case unauthenticated => exact fun h0 ↦ h.unauthenticated (hzero.mp h0)
  case accepted =>
    rw [h.accepted]
    exact if_congr hzero.symm rfl rfl
  case keepaliveLoops => exact h.keepaliveLoops
  case readyClosed => exact fun hclosed ↦ Nat.le_trans (h.readyClosed hclosed) hle
  case tunnels => exact h.tunnels
  case up => exact fun hup ↦ Nat.le_trans (h.up hup) hle
  case rebinding => exact fun heq ↦ absurd heq (hafter _ (by decide))
  case watching => exact h.watching
  case rebinds =>
    have hne : q ≠ .returned := hafter _ (by decide)
    simpa [rebound, hbefore, hne] using h.rebinds

theorem Inv.watch (h : s.Inv) {w : WatcherPoint} (hbefore : s.watcher ≠ .returned)
    (hafter : w ≠ .returned) (hup : w = .rebindUplink → s.vpn.running = true) :
    Inv { s with watcher := w } where
  alive := h.alive
  unauthenticated := h.unauthenticated
  accepted := h.accepted
  keepaliveLoops := h.keepaliveLoops
  readyClosed := h.readyClosed
  tunnels := h.tunnels
  up := h.up
  rebinding := h.rebinding
  watching := fun hw ↦ hup (hw.resolve_right hafter)
  rebinds := by simpa [rebound, hbefore, hafter, reason] using h.rebinds

theorem Inv.configure (h : s.Inv) {vpn : Manager} (hvpn : vpn.running = s.vpn.running) :
    Inv { s with vpn } where
  alive := h.alive
  unauthenticated := h.unauthenticated
  accepted := h.accepted
  keepaliveLoops := h.keepaliveLoops
  readyClosed := h.readyClosed
  tunnels := h.tunnels.trans (by rw [hvpn])
  up := fun hup ↦ h.up (hvpn.symm.trans hup)
  rebinding := fun hpoint ↦ hvpn.trans (h.rebinding hpoint)
  watching := fun hw ↦ hvpn.trans (h.watching hw)
  rebinds := by simpa [rebound, hvpn, reason] using h.rebinds

theorem Inv.stopClient (h : s.Inv) : Inv { s with running := false } where
  alive := h.alive
  unauthenticated := fun h0 ↦ ⟨rfl, (h.unauthenticated h0).2⟩
  accepted := h.accepted
  keepaliveLoops := h.keepaliveLoops
  readyClosed := h.readyClosed
  tunnels := h.tunnels
  up := h.up
  rebinding := h.rebinding
  watching := h.watching
  rebinds := h.rebinds

/-- The reply decides about the configuration and where the goroutine goes on. -/
theorem requestVPNProvisioning_eq (s : Startup) (reply : Option (VPNConfig × Bool)) :
    ∃ (vpn : Manager) (q : StartupPoint), vpn.running = s.vpn.running ∧
      Onward .requestVPNProvisioning q ∧
      s.requestVPNProvisioning reply = { s with vpn, point := q } := by
  rcases reply with _ | ⟨cfg, written⟩
  · exact ⟨s.vpn, .isRunning, rfl, by decide, rfl⟩
  · cases written with
    | false => exact ⟨s.vpn, .isRunning, rfl, by decide, rfl⟩
    | true => exact ⟨s.vpn.saveProvisionedConfig cfg true, .closeReady, rfl, by decide, rfl⟩

theorem Inv.requestVPNProvisioning (h : s.Inv) (hpoint : s.point = .requestVPNProvisioning)
    (reply : Option (VPNConfig × Bool)) : (s.requestVPNProvisioning reply).Inv := by
  obtain ⟨vpn, q, hvpn, hmove, heq⟩ := requestVPNProvisioning_eq s reply
  rw [heq]
  exact (h.configure hvpn).goto hpoint hmove

/-- The tunnel is not up yet, so that the watcher has not been anywhere. -/
theorem Inv.readEgress (h : s.Inv) (hpoint : s.point = .readEgress) (ready : Bool) :
    Inv { s with point := .authenticate, watcher := if ready then .absent else .waiting } := by
  have hbefore : s.watcher ≠ .returned := by
    intro hwatcher
    have hdown := h.down (by rw [hpoint]; decide)
    exact Bool.false_ne_true (hdown.symm.trans (h.watching (.inr hwatcher)))
  refine (h.goto hpoint (q := .authenticate) (by decide)).watch hbefore ?_ ?_
  · cases ready <;> exact nofun
  · cases ready <;> exact nofun

/-- The tunnel is not up where the goroutine asks for it first. -/
theorem Inv.isRunning (h : s.Inv) (hpoint : s.point = .isRunning) :
    Inv { s with point := if s.vpn.isRunning then .stopTunnel else .startTunnel } := by
  have hdown : s.vpn.isRunning = false := h.down (by rw [hpoint]; decide)
  rw [hdown]
  exact h.goto hpoint (by decide)

theorem Inv.watcherTick (h : s.Inv) (hwatcher : s.watcher = .waiting) (ready : Bool) :
    Inv { s with watcher := if ready then .isRunning else .waiting } := by
  refine h.watch (by rw [hwatcher]; exact nofun) ?_ ?_
  · cases ready <;> exact nofun
  · cases ready <;> exact nofun

theorem Inv.watcherIsRunning (h : s.Inv) (hwatcher : s.watcher = .isRunning) :
    Inv { s with watcher := if s.vpn.isRunning then .rebindUplink else .waiting } := by
  refine h.watch (by rw [hwatcher]; exact nofun) ?_ ?_
  · cases s.vpn.isRunning <;> exact nofun
  · intro heq
    cases hup : s.vpn.isRunning with
    | false =>
      rw [hup] at heq
      cases heq
    | true => exact hup

theorem Inv.step (h : s.Inv) (hstep : s.step e = some s') : s'.Inv := by
  cases e
  all_goals
    simp only [Startup.step, Option.ite_none_right_eq_some, Option.some.injEq] at hstep
  case readEgress ready => exact hstep.2 ▸ h.readEgress hstep.1 ready
  case authenticate now reply => exact hstep.2 ▸ h.start hstep.1 now reply
  case wake => exact hstep.2 ▸ h.goto hstep.1 (by decide)
  case requestVPNProvisioning reply => exact hstep.2 ▸ h.requestVPNProvisioning hstep.1 reply
  case closeReady => exact hstep.2 ▸ h.closeReady hstep.1
  case isRunning => exact hstep.2 ▸ h.isRunning hstep.1
  case stopTunnel => exact absurd hstep.1 h.alive.2
  case startTunnel up => exact hstep.2 ▸ h.startTunnel hstep.1 up
  case rebindUplink => exact hstep.2 ▸ h.rebindUplink hstep.1
  case watcherTick ready => exact hstep.2 ▸ h.watcherTick hstep.1 ready
  case watcherIsRunning => exact hstep.2 ▸ h.watcherIsRunning hstep.1
  case watcherRebindUplink => exact hstep.2 ▸ h.watcherRebindUplink hstep.1
  case stopClient => exact hstep ▸ h.stopClient

theorem Inv.run {evs : List StartupEvent} (h : s.Inv) (hrun : startupMachine.run s evs = some s') :
    s'.Inv :=
  Machine.invariant (fun _ _ _ ↦ Inv.step) h hrun

/-! ## What stays -/

/-- The manager is changed by the goroutine only, on its way to the end. -/
theorem point_or_vpn_of_step (hstep : s.step e = some s') :
    s.point ≠ .returned ∨ (s'.point = .returned ∧ s'.vpn = s.vpn) := by
  cases e
  all_goals
    simp only [Startup.step, Option.ite_none_right_eq_some, Option.some.injEq] at hstep
  case stopClient =>
    subst hstep
    grind
  all_goals
    obtain ⟨hpoint, rfl⟩ := hstep
    grind

/-- After the goroutine has returned the manager stays as it is. -/
theorem returned_run {evs : List StartupEvent} (hpoint : s.point = .returned)
    (hrun : startupMachine.run s evs = some s') : s'.point = .returned ∧ s'.vpn = s.vpn := by
  refine Machine.invariant (I := fun t ↦ t.point = .returned ∧ t.vpn = s.vpn) ?_ ⟨hpoint, rfl⟩ hrun
  rintro t e t' ⟨ht, hvpn⟩ hstep
  rcases point_or_vpn_of_step hstep with hne | ⟨ht', hvpn'⟩
  · exact absurd ht hne
  · exact ⟨ht', hvpn'.trans hvpn⟩

/-- A tunnel that is up stays up: the goroutine is past its calls of the manager. -/
theorem Inv.up_step (h : s.Inv) (hup : s.vpn.running = true) (hstep : s.step e = some s') :
    s'.vpn.running = true := by
  have hstage := h.up hup
  cases e
  all_goals
    simp only [Startup.step, Option.ite_none_right_eq_some, Option.some.injEq] at hstep
  case stopClient =>
    subst hstep
    exact hup
  all_goals
    obtain ⟨hpoint, rfl⟩ := hstep
    grind [StartupPoint.stage]

theorem Inv.up_run {evs : List StartupEvent} (h : s.Inv) (hup : s.vpn.running = true)
    (hrun : startupMachine.run s evs = some s') : s'.vpn.running = true :=
  (Machine.invariant (I := fun t ↦ t.Inv ∧ t.vpn.running = true)
    (fun _ _ _ ht hstep ↦ ⟨ht.1.step hstep, ht.1.up_step ht.2 hstep⟩) ⟨h, hup⟩ hrun).2

end Startup

open Startup in
/-- In every run of the two goroutines, whatever the server, the disk and the network answer, at
most one authentication is accepted; the keepalive loop is spawned, the channel is closed and the
tunnel is made at most once, and after it. No run ends in a second close.

The sender is rebound once by the goroutine, when the tunnel is up, and once by the watcher if it
was started; the tunnel is up at each of these calls, and it stays up.

A goroutine that has returned without a tunnel leaves the process without one: no later step makes
it, and the sender is not rebound. -/
theorem startup_once {file : Option VPNConfig} {evs : List StartupEvent} {s : Startup}
    (hrun : startupMachine.run (boot file) evs = some s) :
    (s.point ≠ .panicked ∧ s.accepted ≤ 1 ∧ s.keepaliveLoops = s.accepted ∧
      s.tunnels ≤ s.accepted ∧ (s.readyClosed = true → s.accepted = 1)) ∧
    (s.rebinds.Perm s.rebound ∧ ∀ more s', startupMachine.run s more = some s' →
      s.vpn.running = true → s'.vpn.running = true) ∧
    (s.point = .returned → s.vpn.running = false → ∀ more s',
      startupMachine.run s more = some s' →
        s'.vpn.running = false ∧ s'.tunnels = 0 ∧ s'.rebinds = []) := by
  have h := (inv_boot file).run hrun
  have haccepted := h.accepted
  refine ⟨⟨h.alive.1, ?_, h.keepaliveLoops, ?_, ?_⟩,
    ⟨h.rebinds, fun more s' hmore hup ↦ h.up_run hup hmore⟩, ?_⟩
  · rw [haccepted]
    split <;> omega
  · rw [h.tunnels, haccepted]
    have hstage := h.up
    grind
  · intro hclosed
    rw [haccepted, if_neg (by have := h.readyClosed hclosed; omega)]
  · intro hpoint hdown more s' hmore
    obtain ⟨hpoint', hvpn'⟩ := returned_run hpoint hmore
    have h' := h.run hmore
    have hdown' : s'.vpn.running = false := by rw [hvpn', hdown]
    have hrebound : s'.rebound = [] := by
      have hwatcher : s'.watcher ≠ .returned := by
        intro hreturned
        exact absurd (h'.watching (.inr hreturned)) (by simp [hdown'])
      simp [rebound, hdown', hwatcher]
    refine ⟨hdown', by simp [h'.tunnels, hdown'], ?_⟩
    exact List.perm_nil.mp (hrebound ▸ h'.rebinds)

/-- The first attempt fails. When the tunnel is up the watcher sees it before the goroutine has
rebound the sender, so that both do. -/
def lateEgress : List StartupEvent :=
  [.readEgress false, .authenticate 5 none, .watcherTick false, .wake, .authenticate 20 (some 3600),
    .requestVPNProvisioning (some (⟨"10.8.0.5/24"⟩, true)), .closeReady, .isRunning,
    .startTunnel true, .watcherTick true, .watcherIsRunning, .watcherRebindUplink, .rebindUplink]

/-- Where that run ends. -/
def lateEgressEnd : Startup where
  point := .returned
  retrying := true
  watcher := .returned
  running := true
  session := some 3600
  vpn := { config := some ⟨"10.8.0.5/24"⟩, file := some ⟨"10.8.0.5/24"⟩, running := true }
  readyClosed := true
  keepaliveLoops := 1
  accepted := 1
  tunnels := 1
  rebinds := [(.cloudReady, true), (.authRetryVpnReady, true)]

theorem startup_once_lateEgress :
    startupMachine.run (Startup.boot none) lateEgress = some lateEgressEnd ∧
      lateEgressEnd.rebinds.Perm [(.authRetryVpnReady, true), (.cloudReady, true)] := by
  have hrun : startupMachine.run (Startup.boot none) lateEgress = some lateEgressEnd := by decide
  exact ⟨hrun, (startup_once hrun).2.1.1⟩

end DroneBridge
