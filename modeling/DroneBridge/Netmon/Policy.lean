import Mathlib.Algebra.Order.Ring.Int
import DroneBridge.Lib.Clock
import DroneBridge.Lib.Machine

/-!
# The routing policy of the network monitor

Every cycle the monitor reads the mode, probes the interfaces and chooses where the cloud uplink
goes. In the mode that prefers 4G it leaves 4G only after an outage longer than a delay. The outage
is timed by `downSince`, the first failing cycle.

Only the branch that prefers 4G clears `downSince`. A cycle that is held on 4G, by its mode or by
force, probes 4G too but leaves `downSince` alone, so an outage that ended while the monitor was
held still counts when the mode changes back. This is the one way in which a fallback comes early.
-/

namespace DroneBridge

inductive Iface
  | wwan0
  | wlan0
  deriving DecidableEq, Repr

def Iface.text : Iface → String
  | .wwan0 => "wwan0"
  | .wlan0 => "wlan0"

inductive RouteReason
  | wifiOnly
  | holdWwan
  | probeOk
  | waiting
  | wifiFallback
  | fallbackLocked
  | downNoWifi
  deriving DecidableEq, Repr

def RouteReason.text : RouteReason → String
  | .wifiOnly => "WIFI_ONLY"
  | .holdWwan => "4G_ONLY_HOLD_WWAN"
  | .probeOk => "4G_PROBE_OK"
  | .waiting => "4G_WAITING"
  | .wifiFallback => "WIFI_FALLBACK"
  | .fallbackLocked => "4G_WIFI_FALLBACK_LOCKED"
  | .downNoWifi => "4G_DOWN_NO_WIFI"

inductive ProbeMode
  | init
  | wifiOnly
  | pingOk
  | tcpOk
  | fail
  deriving DecidableEq, Repr

def ProbeMode.text : ProbeMode → String
  | .init => "INIT"
  | .wifiOnly => "WIFI_ONLY"
  | .pingOk => "PING_OK"
  | .tcpOk => "TCP_OK"
  | .fail => "FAIL"

/-! ## What a cycle reads -/

/-- The settings as the policy reads them. The fallback flag is read twice. -/
structure PolicyReads where
  fallbackDelay : ℕ
  cloudWifiFallback : Bool
  cloudWifiFallbackAgain : Bool
  deriving DecidableEq, Repr

structure Cycle where
  /-- Any text: only two modes are told apart from the rest. -/
  networkMode : String
  /-- Read apart from the mode, and possibly set by the environment. -/
  force4gOnly : Bool
  /-- The interfaces have an address. -/
  wwanIP : Bool
  wlanIP : Bool
  pingWwan : Bool
  tcpWwan : Bool
  wlanBlocked : Bool
  pingWlan : Bool
  now : ℕ
  reads : PolicyReads
  /-- The unit that restarts the modem is at work. -/
  initBusy : Bool
  /-- The time the restart reads, and whether 4G has an address by then. -/
  reinitNow : ℕ
  wwanIPAfter : Bool
  deriving DecidableEq, Repr

namespace Cycle

variable (c : Cycle)

def wifiOnly : Bool := c.networkMode = "wifi_only"

def held : Bool := c.force4gOnly || c.networkMode = "4g_only"

def wwanPingOk : Bool := c.wwanIP && c.pingWwan

/-- Tried only when the ping fails. -/
def wwanTcpOk : Bool := c.wwanIP && !c.wwanPingOk && c.tcpWwan

def wwanOk : Bool := c.wwanPingOk || c.wwanTcpOk

def wlanOk : Bool := c.wlanIP && !c.wlanBlocked && c.pingWlan

/-- The cycle has probed 4G, with success. -/
def sawProbe : Bool := !c.wifiOnly && c.wwanOk

end Cycle

/-! ## The monitor -/

def reinitTimeout : ℤ := 120 * Clock.second

/-- In minutes. -/
def reinitRetryMin : ℤ := 5

def failThreshold : ℕ := 1

/-- The two retry limits that the environment may set, in minutes. -/
structure ReinitConf where
  retryMinWifi : ℤ := 1
  retryMaxWifi : ℤ := 2

structure Monitor where
  /-- The first failing cycle of the outage; zero for none. -/
  downSince : ℕ
  failures : ℕ
  lastReinit : ℕ
  reinitCount : ℕ
  reinitPending : Bool
  reinitPendingT : ℕ
  probeMode : ProbeMode
  deriving DecidableEq, Repr

structure RouteVerdict where
  target : Iface
  reason : RouteReason
  deriving DecidableEq, Repr

namespace Monitor

def new : Monitor := ⟨0, 0, 0, 0, false, 0, .init⟩

variable (m : Monitor)

/-- The start of the outage, once a cycle has failed at `now`. -/
def outageStart (now : ℕ) : ℕ := if Clock.isZero m.downSince then now else m.downSince

def resolvePbrTarget (c : Cycle) (wwanOk wlanOk : Bool) : Monitor × RouteVerdict :=
  if c.wifiOnly then (m, ⟨.wlan0, .wifiOnly⟩)
  else if c.held then (m, ⟨.wwan0, .holdWwan⟩)
  else if wwanOk then ({ m with downSince := 0 }, ⟨.wwan0, .probeOk⟩)
  else
    ({ m with downSince := m.outageStart c.now },
      if Clock.sub c.now (m.outageStart c.now) ≤ c.reads.fallbackDelay * Clock.second then
        ⟨.wwan0, .waiting⟩
      else if wlanOk && c.reads.cloudWifiFallback then ⟨.wlan0, .wifiFallback⟩
      else if wlanOk && !c.reads.cloudWifiFallbackAgain then ⟨.wwan0, .fallbackLocked⟩
      else ⟨.wwan0, .downNoWifi⟩)

/-- Minutes between two restarts of the modem. -/
def baseWaitMin (conf : ReinitConf) (wlanOk : Bool) : ℤ :=
  if wlanOk then min (conf.retryMinWifi * 2 ^ m.reinitCount) (max 1 conf.retryMaxWifi)
  else min (reinitRetryMin * 2 ^ m.reinitCount) 60

/-- Restart the modem, unless a restart is at work, awaited or too recent. -/
def trigger4gReinit (conf : ReinitConf) (c : Cycle) (wlanOk : Bool) : Monitor × Bool :=
  if c.initBusy then (m, false)
  else if m.reinitPending then
    if c.wwanIPAfter then ({ m with reinitPending := false, reinitCount := 0 }, true)
    else if reinitTimeout ≤ Clock.sub c.reinitNow m.reinitPendingT then
      ({ m with reinitPending := false }, false)
    else (m, false)
  else if 0 < m.lastReinit ∧
      Clock.sub c.reinitNow m.lastReinit < m.baseWaitMin conf wlanOk * 60 * Clock.second then
    (m, false)
  else
    ({ m with
      lastReinit := c.reinitNow
      reinitCount := m.reinitCount + 1
      reinitPending := true
      reinitPendingT := c.reinitNow }, false)

/-- The counters of a cycle that goes to 4G with a good probe. -/
def noteWwanOk (v : RouteVerdict) (wwanOk : Bool) : Monitor :=
  if v.target = .wwan0 ∧ wwanOk then { m with failures := 0, reinitCount := 0 } else m

/-- One more failure, and the restart of the modem from the threshold on. -/
def noteFailure (conf : ReinitConf) (c : Cycle) (v : RouteVerdict) : Monitor :=
  let failed := { m with failures := m.failures + 1 }
  if failThreshold ≤ failed.failures then
    let (next, recovered) := failed.trigger4gReinit conf c (c.wlanOk && v.target = .wlan0)
    if recovered then { next with failures := 0 } else next
  else failed

def probeModeOf (c : Cycle) : ProbeMode :=
  if c.wwanPingOk then .pingOk else if c.wwanTcpOk then .tcpOk else .fail

def applyRoutingPolicy (conf : ReinitConf) (c : Cycle) : Monitor × RouteVerdict :=
  -- This mode returns early, and 4G is not probed.
  if c.wifiOnly then ({ m with probeMode := .wifiOnly }, ⟨.wlan0, .wifiOnly⟩)
  else
    let (next, v) :=
      { m with probeMode := probeModeOf c }.resolvePbrTarget c c.wwanOk c.wlanOk
    let next := next.noteWwanOk v c.wwanOk
    (if c.wwanOk then next else next.noteFailure conf c v, v)

end Monitor

/-! ## What a cycle does to the outage -/

namespace Monitor

variable {m : Monitor} {conf : ReinitConf} {c : Cycle}

@[simp] theorem trigger4gReinit_downSince (wlanOk : Bool) :
    (m.trigger4gReinit conf c wlanOk).1.downSince = m.downSince := by
  rw [trigger4gReinit]
  split_ifs <;> rfl

@[simp] theorem noteWwanOk_downSince (v : RouteVerdict) (wwanOk : Bool) :
    (m.noteWwanOk v wwanOk).downSince = m.downSince := by
  rw [noteWwanOk]
  split_ifs <;> rfl

@[simp] theorem noteFailure_downSince (v : RouteVerdict) :
    (m.noteFailure conf c v).downSince = m.downSince := by
  unfold noteFailure
  dsimp only
  split_ifs
  · exact trigger4gReinit_downSince _
  · exact trigger4gReinit_downSince _
  · rfl

/-- The outage after a cycle: only a cycle that prefers 4G touches it. -/
theorem applyRoutingPolicy_downSince :
    (m.applyRoutingPolicy conf c).1.downSince =
      if c.wifiOnly ∨ c.held then m.downSince
      else if c.wwanOk then 0
      else m.outageStart c.now := by
  unfold applyRoutingPolicy resolvePbrTarget
  cases c.wifiOnly <;> cases c.held <;> cases c.wwanOk <;> simp [outageStart]

/-- A cycle falls back only when it prefers 4G, 4G fails and the outage is longer than the delay. -/
theorem applyRoutingPolicy_wifiFallback
    (h : (m.applyRoutingPolicy conf c).2.reason = .wifiFallback) :
    c.wifiOnly = false ∧ c.held = false ∧ c.wwanOk = false ∧
      c.reads.fallbackDelay * Clock.second < Clock.sub c.now (m.outageStart c.now) := by
  cases hwifi : c.wifiOnly with
  | true => simp [applyRoutingPolicy, hwifi] at h
  | false =>
    cases hheld : c.held with
    | true => simp [applyRoutingPolicy, resolvePbrTarget, hwifi, hheld] at h
    | false =>
      cases hok : c.wwanOk with
      | true => simp [applyRoutingPolicy, resolvePbrTarget, hwifi, hheld, hok] at h
      | false =>
        refine ⟨rfl, rfl, rfl, Int.not_le.mp fun hwait ↦ ?_⟩
        rw [outageStart] at hwait
        simp [applyRoutingPolicy, resolvePbrTarget, outageStart, hwifi, hheld, hok, hwait] at h

end Monitor

/-! ## Runs -/

structure NetmonRun where
  monitor : Monitor
  clock : ℕ
  deriving DecidableEq, Repr

/-- Cycles one after the other, by a positive clock that never goes back. -/
def netmonMachine (conf : ReinitConf) : Machine NetmonRun Cycle where
  step r c :=
    if 0 < c.now ∧ r.clock ≤ c.now then some ⟨(r.monitor.applyRoutingPolicy conf c).1, c.now⟩
    else none

theorem netmonMachine_step {conf : ReinitConf} {r r' : NetmonRun} {c : Cycle}
    (h : (netmonMachine conf).step r c = some r') :
    (0 < c.now ∧ r.clock ≤ c.now) ∧ r' = ⟨(r.monitor.applyRoutingPolicy conf c).1, c.now⟩ := by
  dsimp only [netmonMachine] at h
  obtain ⟨hnow, h⟩ := Option.ite_none_right_eq_some.mp h
  exact ⟨hnow, (Option.some.inj h).symm⟩

def NetmonRun.start : NetmonRun := ⟨.new, 0⟩

/-- An outage began no earlier than any good probe that was not made while held. -/
structure NetmonRun.Inv (cs : List Cycle) (r : NetmonRun) : Prop where
  clock : ∀ d ∈ cs, d.now ≤ r.clock
  probed : ∀ d ∈ cs, d.held = false → d.sawProbe = true →
    0 < r.monitor.downSince → d.now ≤ r.monitor.downSince

namespace NetmonRun.Inv

variable {conf : ReinitConf} {cs : List Cycle} {r r' : NetmonRun} {c : Cycle}

/-- The outage that a failing cycle sees began no earlier than any such probe. -/
theorem le_outageStart (hr : r.Inv cs) (hclock : r.clock ≤ c.now) {d : Cycle} (hd : d ∈ cs)
    (hheld : d.held = false) (hprobe : d.sawProbe = true) :
    d.now ≤ r.monitor.outageStart c.now := by
  rw [Monitor.outageStart]
  split
  · exact Nat.le_trans (hr.clock d hd) hclock
  next hzero =>
    rw [Bool.not_eq_true, Clock.isZero_eq_false_iff] at hzero
    exact hr.probed d hd hheld hprobe hzero

theorem step (hr : r.Inv cs) (h : (netmonMachine conf).step r c = some r') :
    r'.Inv (cs ++ [c]) := by
  obtain ⟨⟨-, hclock⟩, rfl⟩ := netmonMachine_step h
  refine ⟨fun d hd ↦ ?_, fun d hd hheld hprobe hdown ↦ ?_⟩
  · obtain hd | hd := List.mem_append.mp hd
    · exact Nat.le_trans (hr.clock d hd) hclock
    · exact Nat.le_of_eq (congrArg Cycle.now (List.mem_singleton.mp hd))
  · dsimp only at hdown ⊢
    rw [Monitor.applyRoutingPolicy_downSince] at hdown ⊢
    obtain hd | hd := List.mem_append.mp hd
    · split_ifs at hdown ⊢ with hkeep hok
      · exact hr.probed d hd hheld hprobe hdown
      · exact absurd hdown (Nat.lt_irrefl 0)
      · exact hr.le_outageStart hclock hd hheld hprobe
    · -- The cycle itself clears the outage when it sees a good probe.
      obtain rfl := List.mem_singleton.mp hd
      rw [Cycle.sawProbe, Bool.and_eq_true, Bool.not_eq_true'] at hprobe
      simp [hprobe.1, hprobe.2, hheld] at hdown

theorem of_run (hrun : (netmonMachine conf).run .start cs = some r) : r.Inv cs :=
  Machine.history_induction (I := fun cs r ↦ r.Inv cs)
    ⟨fun _ hd ↦ absurd hd List.not_mem_nil, fun _ hd ↦ absurd hd List.not_mem_nil⟩
    (fun _ _ _ _ _ hr h ↦ hr.step h) hrun

end NetmonRun.Inv

/-- **Fallback.** When a cycle falls back to WiFi, no cycle within the delay before it has seen a
good 4G probe, if and only if no cycle that was held on 4G has seen one in that time. -/
theorem wifi_fallback_after_outage_iff {conf : ReinitConf} {cs : List Cycle} {r : NetmonRun}
    {c : Cycle} (hrun : (netmonMachine conf).run .start cs = some r) (hclock : r.clock ≤ c.now)
    (hfall : (r.monitor.applyRoutingPolicy conf c).2.reason = .wifiFallback) :
    (∀ d ∈ cs ++ [c], Clock.sub c.now d.now ≤ c.reads.fallbackDelay * Clock.second →
        d.sawProbe = false) ↔
      ∀ d ∈ cs ++ [c], Clock.sub c.now d.now ≤ c.reads.fallbackDelay * Clock.second →
        d.held = true → d.sawProbe = false := by
  have hr := NetmonRun.Inv.of_run hrun
  obtain ⟨-, hheldc, hokc, hlong⟩ := Monitor.applyRoutingPolicy_wifiFallback hfall
  constructor
  · intro hnone d hd hwindow _
    exact hnone d hd hwindow
  · intro hnone d hd hwindow
    cases hheld : d.held with
    | true => exact hnone d hd hwindow hheld
    | false =>
      obtain hd | hd := List.mem_append.mp hd
      · -- A good probe that was not held has pushed the start of the outage past itself.
        by_contra hprobe
        have hle := hr.le_outageStart hclock hd hheld (by simpa using hprobe)
        rw [Clock.sub] at hwindow hlong
        omega
      · obtain rfl := List.mem_singleton.mp hd
        rw [Cycle.sawProbe, hokc, Bool.and_false]

/-- A cycle at a whole second, with WiFi up, the default delay and the default flag. -/
def cycleAt (second : ℕ) (networkMode : String) (wwan : Bool) : Cycle where
  networkMode := networkMode
  force4gOnly := networkMode = "4g_only"
  wwanIP := wwan
  wlanIP := true
  pingWwan := wwan
  tcpWwan := false
  wlanBlocked := false
  pingWlan := true
  now := second * 1000000000
  reads := ⟨300, true, true⟩
  initBusy := true
  reinitNow := second * 1000000000
  wwanIPAfter := wwan

/-- 4G is well again while the mode is `4g_only`. When the mode is back and 4G fails for the second
time, the monitor falls back at once: the last good probe is 240 seconds old, and the delay is 300.
-/
theorem fallback_after_held_probe :
    ∃ r, (netmonMachine {}).run .start
        [cycleAt 1000 "prefer_4g" false, cycleAt 1065 "4g_only" true] = some r ∧
      (r.monitor.applyRoutingPolicy {} (cycleAt 1305 "prefer_4g" false)).2 =
        ⟨.wlan0, .wifiFallback⟩ ∧
      (cycleAt 1065 "4g_only" true).sawProbe = true ∧
      Clock.sub (cycleAt 1305 "prefer_4g" false).now (cycleAt 1065 "4g_only" true).now ≤
        300 * Clock.second := by
  have hrun : (netmonMachine {}).run .start
      [cycleAt 1000 "prefer_4g" false, cycleAt 1065 "4g_only" true] =
      some ⟨⟨1000000000000, 0, 0, 0, false, 0, .pingOk⟩, 1065000000000⟩ := by decide +kernel
  exact ⟨_, hrun, by decide +kernel, by decide +kernel, by decide⟩

/-- A plain outage: 4G is well at 1000 s and fails from 1030 s on. -/
theorem wifi_fallback_after_outage_plain :
    ∃ r, (netmonMachine {}).run .start
        [cycleAt 1000 "prefer_4g" true, cycleAt 1030 "prefer_4g" false] = some r ∧
      (r.monitor.applyRoutingPolicy {} (cycleAt 1331 "prefer_4g" false)).2.reason =
        .wifiFallback ∧
      ∀ d ∈ [cycleAt 1000 "prefer_4g" true, cycleAt 1030 "prefer_4g" false] ++
          [cycleAt 1331 "prefer_4g" false],
        Clock.sub (cycleAt 1331 "prefer_4g" false).now d.now ≤ 300 * Clock.second →
          d.sawProbe = false := by
  have hrun : (netmonMachine {}).run .start
      [cycleAt 1000 "prefer_4g" true, cycleAt 1030 "prefer_4g" false] =
      some ⟨⟨1030000000000, 1, 0, 0, false, 0, .fail⟩, 1030000000000⟩ := by decide +kernel
  have hfall : (Monitor.applyRoutingPolicy ⟨1030000000000, 1, 0, 0, false, 0, .fail⟩ {}
      (cycleAt 1331 "prefer_4g" false)).2.reason = .wifiFallback := by decide +kernel
  exact ⟨_, hrun, hfall,
    (wifi_fallback_after_outage_iff hrun (by decide) hfall).mpr (by decide +kernel)⟩

end DroneBridge
