import DroneBridge.Netmon.Policy
import DroneBridge.Netmon.Readers

/-!
# What the settings decide

The settings matter by the interface that they choose in each cycle, whatever the probes and the
clock say. Up to that they are one of three policies: always WiFi, always 4G, or 4G with a fallback
after a delay. A mode that prefers 4G without the fallback is the second of them.
-/

namespace DroneBridge

/-- The settings as every cycle reads them while the files stay as they are. -/
structure NetmonSettings where
  mode : String
  force4gOnly : Bool
  fallbackDelay : ℕ
  cloudWifiFallback : Bool
  deriving DecidableEq, Repr

def netmonSettings (env : NetmonEnv) (files : List Text) : NetmonSettings where
  mode := loadNetworkMode files
  force4gOnly := force4gOnlyFromPolicy env files
  fallbackDelay := loadFallbackDelay files
  cloudWifiFallback := loadCloudWifiFallback env files

def Cycle.withSettings (s : NetmonSettings) (c : Cycle) : Cycle :=
  { c with
    networkMode := s.mode
    force4gOnly := s.force4gOnly
    reads := ⟨s.fallbackDelay, s.cloudWifiFallback, s.cloudWifiFallback⟩ }

/-- Where the uplink goes in each cycle. -/
def targets (conf : ReinitConf) (s : NetmonSettings) : Monitor → List Cycle → List Iface
  | _, [] => []
  | m, c :: cs =>
    let (next, v) := m.applyRoutingPolicy conf (c.withSettings s)
    v.target :: targets conf s next cs

/-- Whatever the cycles see, both settings choose the same interfaces. -/
def SameRouting (s₁ s₂ : NetmonSettings) : Prop :=
  ∀ conf cs, targets conf s₁ .new cs = targets conf s₂ .new cs

inductive RoutingPolicy
  | wlan
  | wwan
  /-- 4G, and WiFi after an outage of more than so many seconds. -/
  | fallback (delay : ℕ)
  deriving DecidableEq, Repr

namespace NetmonSettings

variable (s : NetmonSettings)

def wifiOnly : Bool := s.mode = "wifi_only"

def held : Bool := s.force4gOnly || s.mode = "4g_only"

def policy : RoutingPolicy :=
  if s.wifiOnly then .wlan
  else if s.held then .wwan
  else if s.cloudWifiFallback then .fallback s.fallbackDelay
  else .wwan

end NetmonSettings

section

variable {conf : ReinitConf} {s s₁ s₂ : NetmonSettings} {m : Monitor} {c : Cycle} {d : ℕ}

/-! ## One cycle -/

@[simp] theorem withSettings_wifiOnly : (c.withSettings s).wifiOnly = s.wifiOnly := rfl

@[simp] theorem withSettings_held : (c.withSettings s).held = s.held := rfl

@[simp] theorem withSettings_wwanOk : (c.withSettings s).wwanOk = c.wwanOk := rfl

@[simp] theorem withSettings_wlanOk : (c.withSettings s).wlanOk = c.wlanOk := rfl

@[simp] theorem withSettings_now : (c.withSettings s).now = c.now := rfl

@[simp] theorem withSettings_reads :
    (c.withSettings s).reads = ⟨s.fallbackDelay, s.cloudWifiFallback, s.cloudWifiFallback⟩ := rfl

theorem policy_eq_wlan_iff : s.policy = .wlan ↔ s.wifiOnly = true := by
  rw [NetmonSettings.policy]
  cases s.wifiOnly <;> cases s.held <;> cases s.cloudWifiFallback <;> simp

theorem policy_eq_wwan_iff :
    s.policy = .wwan ↔ s.wifiOnly = false ∧ (s.held = true ∨ s.cloudWifiFallback = false) := by
  rw [NetmonSettings.policy]
  cases s.wifiOnly <;> cases s.held <;> cases s.cloudWifiFallback <;> simp

theorem policy_eq_fallback_iff :
    s.policy = .fallback d ↔
      s.wifiOnly = false ∧ s.held = false ∧ s.cloudWifiFallback = true ∧ s.fallbackDelay = d := by
  rw [NetmonSettings.policy]
  cases s.wifiOnly <;> cases s.held <;> cases s.cloudWifiFallback <;> simp

theorem target_of_wlan (h : s.policy = .wlan) :
    (m.applyRoutingPolicy conf (c.withSettings s)).2.target = .wlan0 := by
  simp [Monitor.applyRoutingPolicy, policy_eq_wlan_iff.mp h]

theorem target_of_wwan (h : s.policy = .wwan) :
    (m.applyRoutingPolicy conf (c.withSettings s)).2.target = .wwan0 := by
  obtain ⟨hwifi, hheld | hcloud⟩ := policy_eq_wwan_iff.mp h
  · simp [Monitor.applyRoutingPolicy, Monitor.resolvePbrTarget, hwifi, hheld]
  · simp only [Monitor.applyRoutingPolicy, Monitor.resolvePbrTarget, withSettings_wifiOnly, hwifi,
      withSettings_reads, hcloud, Bool.and_false, Bool.false_eq_true, if_false]
    split_ifs <;> rfl

theorem applyRoutingPolicy_of_fallback (h₁ : s₁.policy = .fallback d)
    (h₂ : s₂.policy = .fallback d) :
    m.applyRoutingPolicy conf (c.withSettings s₁) =
      m.applyRoutingPolicy conf (c.withSettings s₂) := by
  obtain ⟨hwifi₁, hheld₁, hcloud₁, hdelay₁⟩ := policy_eq_fallback_iff.mp h₁
  obtain ⟨hwifi₂, hheld₂, hcloud₂, hdelay₂⟩ := policy_eq_fallback_iff.mp h₂
  simp only [Monitor.applyRoutingPolicy, Monitor.resolvePbrTarget, withSettings_wifiOnly,
    withSettings_held, withSettings_reads, hwifi₁, hheld₁, hcloud₁, hdelay₁, hwifi₂, hheld₂,
    hcloud₂, hdelay₂]
  rfl

/-- While 4G fails and WiFi is up, the length of the outage decides. -/
theorem target_of_fallback (h : s.policy = .fallback d) (hwwan : c.wwanOk = false)
    (hwlan : c.wlanOk = true) :
    (m.applyRoutingPolicy conf (c.withSettings s)).2.target =
      if Clock.sub c.now (m.outageStart c.now) ≤ d * Clock.second then .wwan0 else .wlan0 := by
  obtain ⟨hwifi, hheld, hcloud, rfl⟩ := policy_eq_fallback_iff.mp h
  simp only [Monitor.applyRoutingPolicy, Monitor.resolvePbrTarget, withSettings_wifiOnly,
    withSettings_held, withSettings_reads, withSettings_wwanOk, withSettings_wlanOk,
    withSettings_now, hwifi, hheld, hcloud, hwwan, hwlan, Monitor.outageStart, Bool.false_eq_true,
    if_false, Bool.and_self, if_true]
  split_ifs <;> rfl

/-- Settings with a given delay. -/
def fallbackSettings (d : ℕ) : NetmonSettings := ⟨"prefer_4g", false, d, true⟩

theorem fallbackSettings_policy (d : ℕ) : (fallbackSettings d).policy = .fallback d := rfl

/-! ## Runs -/

theorem targets_eq_replicate {iface : Iface}
    (h : ∀ (m : Monitor) (c : Cycle),
      (m.applyRoutingPolicy conf (c.withSettings s)).2.target = iface)
    (m : Monitor) (cs : List Cycle) : targets conf s m cs = cs.map fun _ ↦ iface := by
  induction cs generalizing m with
  | nil => rfl
  | cons c cs ih =>
    rw [targets, List.map_cons]
    dsimp only
    rw [h m c, ih]

theorem targets_of_fallback (h₁ : s₁.policy = .fallback d) (h₂ : s₂.policy = .fallback d)
    (m : Monitor) (cs : List Cycle) : targets conf s₁ m cs = targets conf s₂ m cs := by
  induction cs generalizing m with
  | nil => rfl
  | cons c cs ih =>
    rw [targets, targets]
    dsimp only
    rw [applyRoutingPolicy_of_fallback h₁ h₂, ih]

theorem sameRouting_of_policy_eq (h : s₁.policy = s₂.policy) : SameRouting s₁ s₂ := by
  intro conf cs
  cases h₂ : s₂.policy with
  | wlan =>
    rw [targets_eq_replicate fun _ _ ↦ target_of_wlan (h.trans h₂),
      targets_eq_replicate fun _ _ ↦ target_of_wlan h₂]
  | wwan =>
    rw [targets_eq_replicate fun _ _ ↦ target_of_wwan (h.trans h₂),
      targets_eq_replicate fun _ _ ↦ target_of_wwan h₂]
  | fallback d => exact targets_of_fallback (h.trans h₂) h₂ .new cs

/-! ## Cycles that tell policies apart -/

/-- Where the uplink goes while 4G is well. -/
def RoutingPolicy.whenGood : RoutingPolicy → Iface
  | .wlan => .wlan0
  | _ => .wwan0

/-- Where the uplink goes after an outage of `d + 1` seconds. -/
def RoutingPolicy.afterOutage (d : ℕ) : RoutingPolicy → Iface
  | .wlan => .wlan0
  | .wwan => .wwan0
  | .fallback delay => if delay ≤ d then .wlan0 else .wwan0

/-- Two failing cycles, `d + 1` seconds apart. -/
def outage (d : ℕ) : List Cycle := [cycleAt 1 "" false, cycleAt (d + 2) "" false]

theorem targets_good (s : NetmonSettings) :
    targets {} s .new [cycleAt 1 "" true] = [s.policy.whenGood] := by
  cases h : s.policy with
  | wlan => exact targets_eq_replicate (fun _ _ ↦ target_of_wlan h) _ _
  | wwan => exact targets_eq_replicate (fun _ _ ↦ target_of_wwan h) _ _
  | fallback d =>
    rw [targets_of_fallback h (fallbackSettings_policy d)]
    rfl

theorem targets_pair {c₁ c₂ : Cycle} :
    (targets conf s m [c₁, c₂]).getLast? =
      some ((m.applyRoutingPolicy conf (c₁.withSettings s)).1.applyRoutingPolicy conf
        (c₂.withSettings s)).2.target := rfl

theorem targets_outage (s : NetmonSettings) (d : ℕ) :
    (targets {} s .new (outage d)).getLast? = some (s.policy.afterOutage d) := by
  cases h : s.policy with
  | wlan =>
    rw [targets_eq_replicate fun _ _ ↦ target_of_wlan h]
    rfl
  | wwan =>
    rw [targets_eq_replicate fun _ _ ↦ target_of_wwan h]
    rfl
  | fallback delay =>
    -- The first cycle starts the outage, at one second, and the second one ends the wait.
    have hstart : (Monitor.new.applyRoutingPolicy {}
        ((cycleAt 1 "" false).withSettings s)).1.downSince = 1000000000 := by
      obtain ⟨hwifi, hheld, -⟩ := policy_eq_fallback_iff.mp h
      rw [Monitor.applyRoutingPolicy_downSince, withSettings_wifiOnly, withSettings_held, hwifi,
        hheld]
      rfl
    have hwait : Clock.sub (cycleAt (d + 2) "" false).now 1000000000 ≤ delay * Clock.second ↔
        ¬ delay ≤ d := by
      dsimp only [Clock.sub, Clock.second, cycleAt]
      omega
    have hnonzero : ¬ Clock.isZero 1000000000 = true := by decide
    rw [outage, targets_pair, target_of_fallback h rfl rfl, Monitor.outageStart, hstart,
      if_neg hnonzero, RoutingPolicy.afterOutage]
    by_cases hdelay : delay ≤ d
    · rw [if_neg (fun hle ↦ hwait.mp hle hdelay), if_pos hdelay]
    · rw [if_pos (hwait.mpr hdelay), if_neg hdelay]

theorem RoutingPolicy.eq_of_forall {p q : RoutingPolicy} (hgood : p.whenGood = q.whenGood)
    (houtage : ∀ d, p.afterOutage d = q.afterOutage d) : p = q := by
  cases p with
  | wlan => cases q <;> first | rfl | exact nomatch hgood
  | wwan =>
    cases q with
    | wlan => exact nomatch hgood
    | wwan => rfl
    | fallback d => simpa [afterOutage] using houtage d
  | fallback d =>
    cases q with
    | wlan => exact nomatch hgood
    | wwan => simpa [afterOutage] using houtage d
    | fallback e =>
      -- Each delay is long enough for the other one.
      have hed : e ≤ d := by
        by_contra hlt
        simpa [afterOutage, hlt] using houtage d
      have hde : d ≤ e := by
        by_contra hlt
        simpa [afterOutage, hlt] using houtage e
      rw [Nat.le_antisymm hde hed]

/-- **Routing.** Two settings choose the same interface in every run exactly when they have the same
policy. -/
theorem sameRouting_iff : SameRouting s₁ s₂ ↔ s₁.policy = s₂.policy := by
  constructor
  · intro h
    apply RoutingPolicy.eq_of_forall
    · have hone := h {} [cycleAt 1 "" true]
      rwa [targets_good, targets_good, List.singleton_inj] at hone
    · intro d
      have hlast := congrArg List.getLast? (h {} (outage d))
      rwa [targets_outage, targets_outage, Option.some.injEq] at hlast
  · exact sameRouting_of_policy_eq

end

end DroneBridge
