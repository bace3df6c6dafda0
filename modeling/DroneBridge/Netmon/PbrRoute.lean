import DroneBridge.Lib.RouteTable
import DroneBridge.Netmon.EthernetLan
import Mathlib.Data.Char
import Mathlib.Data.List.Infix
import Mathlib.Data.List.Lex
import Mathlib.Data.List.Sort

/-!
# The table for the packets of the bridge

Marked packets are routed by a table of their own, and where that table has no default route they
fall through to the main one. To switch the interface the monitor flushes the table, writes the
network of the flight controller again and adds the new default route. The three commands fail
independently of each other, and the result of the first two is not looked at.

So a switch that is reported as failed has kept the old default route only if the flush failed too
(`setPbrRoute_keeps_default_iff`).
-/

namespace DroneBridge

/-- What the kernel tells the routes of a table apart by. -/
structure RouteKey where
  dst : Ipv4Network
  metric : ℕ
  deriving DecidableEq, Repr

structure Route where
  gateway : Option Text := none
  dev : Text
  src : Option Text := none
  deriving DecidableEq, Repr

abbrev PbrTable := RouteTable RouteKey Route

def defaultNet : Ipv4Network := ⟨⟨0, 0, 0, 0⟩, 0⟩

/-- What this code has to do with, of the system and of the monitor. -/
structure PbrState where
  table : PbrTable
  /-- The source addresses of the rules that rewrite marked packets on `wwan0`. -/
  snatRules : List Text := []
  /-- `_wwan_snat_ip` -/
  wwanSnatIp : Option Text := none

/-- What a call meets: the files and interfaces that it looks at, and which commands succeed. -/
structure PbrEnv where
  ethernetEnv : EthernetEnv := {}
  files : List Text := []
  /-- The interface is in `/sys/class/net`. -/
  hasIface : Text → Bool
  /-- The address of an interface that is up. -/
  ifaceIp : Text → Option Text
  /-- The address of `wwan0`, when the host routes ask for it once more. -/
  laterWwanIp : Option Text := none
  /-- The destination that `ip` and the kernel make of a text. -/
  parseDst : Text → Option Ipv4Network
  healthTcpHost : Text := []
  wgEndpoint : Text := "45.117.171.237:51820".toList
  flushOk : Bool
  lanOk : Bool
  addOk : Bool
  hostOk : Text → Bool := fun _ ↦ true
  snatDeleteOk : Bool := true
  snatAppendOk : Bool := true

namespace PbrEnv

def wwan0 : Text := "wwan0".toList

variable (env : PbrEnv)

def lan : EthernetLan := loadEthernetLan env.ethernetEnv env.hasIface env.files

/-! ## The parts of a switch -/

def ensurePbrEthLanRoute (t : PbrTable) : Bool × PbrTable :=
  if env.lan.cidr = [] || (env.ifaceIp env.lan.interface).isNone then (false, t)
  else
    match env.parseDst env.lan.cidr with
    | none => (false, t)
    | some dst => t.replace env.lanOk ⟨dst, 0⟩ { dev := env.lan.interface }

def clearPbrWwanSnat (s : PbrState) : PbrState :=
  match s.wwanSnatIp with
  | none => s
  | some ip =>
    { s with
      snatRules := if env.snatDeleteOk then s.snatRules.erase ip else s.snatRules
      wwanSnatIp := none }

def ensurePbrWwanSnat (wwanIp : Option Text) (s : PbrState) : PbrState :=
  match wwanIp with
  | none => s
  | some ip =>
    if s.wwanSnatIp = some ip then s
    else
      let s := env.clearPbrWwanSnat s
      if env.snatAppendOk then
        { s with snatRules := s.snatRules ++ [ip], wwanSnatIp := some ip }
      else s

/-- `rsplit(":", 1)[0]` -/
def beforeLastColon (t : Text) : Text :=
  match t.reverse.dropWhile (· ≠ ':') with
  | [] => t
  | _ :: rest => rest.reverse

/-- The hosts without repetition, in their order. -/
def egressHostsForWwan : List Text :=
  let wgEp := stripSpace env.wgEndpoint
  let hosts := (if env.healthTcpHost = [] then [] else [env.healthTcpHost]) ++
    (if wgEp = [] then [] else [beforeLastColon wgEp])
  hosts.dedup.insertionSort (· ≤ ·)

/-- A host route is written whatever became of the one before. -/
def ensurePbrWwanHostRoutes (wwanIp : Option Text) (t : PbrTable) : PbrTable :=
  let src := wwanIp.or env.laterWwanIp
  env.egressHostsForWwan.foldl (fun t host ↦
    match env.parseDst (host ++ "/32".toList) with
    | none => t
    | some dst => (t.replace (env.hostOk host) ⟨dst, 0⟩ { dev := wwan0, src := src }).2) t

/-! ## The switch -/

/-- The default route for an interface. A modem is routed to without a gateway. -/
def defaultRoute (iface : Text) (gateway : Option Text) : Route :=
  if iface = wwan0 then { dev := iface, src := env.ifaceIp wwan0 }
  else { gateway := gateway.filter (· ≠ []), dev := iface }

/-- The table when the default route is added. -/
def preparedTable (t : PbrTable) : PbrTable := (env.ensurePbrEthLanRoute (t.flush env.flushOk)).2

def setPbrRoute (iface : Text) (gateway : Option Text) (s : PbrState) : Bool × PbrState :=
  if iface = wwan0 && !env.hasIface wwan0 then (false, s)
  else
    let s := if iface = wwan0 then s else env.clearPbrWwanSnat s
    let added := (env.preparedTable s.table).add env.addOk ⟨defaultNet, 0⟩
      (env.defaultRoute iface gateway)
    if added.1 then
      if iface = wwan0 then
        let wwanIp := env.ifaceIp wwan0
        let table := env.ensurePbrWwanHostRoutes wwanIp added.2
        (true, env.ensurePbrWwanSnat wwanIp { s with table := table })
      else (true, { s with table := added.2 })
    else (false, { s with table := added.2 })

/-! ## The route to the flight controller -/

/-- The route written for the network of the flight controller, where that network is everything and
the command succeeds. -/
def defaultLan : Option Route :=
  if env.lan.cidr ≠ [] ∧ (env.ifaceIp env.lan.interface).isSome ∧ env.lanOk ∧
      env.parseDst env.lan.cidr = some defaultNet then
    some { dev := env.lan.interface }
  else none

variable {env}

/-- The default route of metric 0, the only one that the commands can concern. -/
theorem ensurePbrEthLanRoute_default (t : PbrTable) :
    (env.ensurePbrEthLanRoute t).2 ⟨defaultNet, 0⟩ = env.defaultLan.or (t ⟨defaultNet, 0⟩) := by
  rw [ensurePbrEthLanRoute, defaultLan]
  split
  next h =>
    have hnot : ¬ (env.lan.cidr ≠ [] ∧ (env.ifaceIp env.lan.interface).isSome) := by
      simpa [or_iff_not_imp_left] using h
    rw [if_neg fun hall ↦ hnot ⟨hall.1, hall.2.1⟩, Option.none_or]
  next h =>
    have hcalled : env.lan.cidr ≠ [] ∧ (env.ifaceIp env.lan.interface).isSome := by
      simpa [Option.isSome_iff_ne_none] using h
    cases env.parseDst env.lan.cidr with
    | none => simp
    | some dst =>
      rw [RouteTable.replace_snd_apply]
      by_cases hdst : dst = defaultNet
      · cases env.lanOk <;> simp [hcalled, hdst]
      · simp [hdst, Ne.symm hdst]

theorem ensurePbrEthLanRoute_of_metric (t : PbrTable) {m : ℕ} (hm : m ≠ 0) :
    (env.ensurePbrEthLanRoute t).2 ⟨defaultNet, m⟩ = t ⟨defaultNet, m⟩ := by
  rw [ensurePbrEthLanRoute]
  split
  next => rfl
  next =>
    cases env.parseDst env.lan.cidr with
    | none => rfl
    | some dst => exact RouteTable.replace_snd_of_ne fun h ↦ hm (RouteKey.mk.inj h).2

/-! ## What a failed switch leaves -/

/-- The default routes of the table are still there. -/
def KeepsDefaults (t t' : PbrTable) : Prop :=
  ∀ m r, t ⟨defaultNet, m⟩ = some r → t' ⟨defaultNet, m⟩ = some r

theorem clearPbrWwanSnat_table (s : PbrState) : (env.clearPbrWwanSnat s).table = s.table := by
  rw [clearPbrWwanSnat]
  split <;> rfl

section

variable {iface : Text} {gateway : Option Text} {s : PbrState}

theorem setPbrRoute_of_missing (h : iface = wwan0 ∧ env.hasIface wwan0 = false) :
    env.setPbrRoute iface gateway s = (false, s) := by
  rw [setPbrRoute, if_pos (by simp [h.1, h.2])]

/-- Every other switch stands or falls with the last command. -/
theorem setPbrRoute_fst (h : ¬ (iface = wwan0 ∧ env.hasIface wwan0 = false)) :
    (env.setPbrRoute iface gateway s).1 =
      ((env.preparedTable s.table).add env.addOk ⟨defaultNet, 0⟩
        (env.defaultRoute iface gateway)).1 := by
  rw [setPbrRoute, if_neg (by simpa using h)]
  simp only [apply_ite PbrState.table, clearPbrWwanSnat_table, ite_self]
  split_ifs <;> simp_all

theorem setPbrRoute_table_of_failed (h : ¬ (iface = wwan0 ∧ env.hasIface wwan0 = false))
    (hfailed : (env.setPbrRoute iface gateway s).1 = false) :
    (env.setPbrRoute iface gateway s).2.table = env.preparedTable s.table := by
  rw [setPbrRoute_fst h] at hfailed
  rw [setPbrRoute, if_neg (by simpa using h)]
  simp only [apply_ite PbrState.table, clearPbrWwanSnat_table, ite_self, hfailed,
    Bool.false_eq_true, if_false]
  exact RouteTable.add_snd_of_failed hfailed

theorem setPbrRoute_fst_eq_false (h : ¬ (iface = wwan0 ∧ env.hasIface wwan0 = false)) :
    (env.setPbrRoute iface gateway s).1 = false ↔
      env.addOk = false ∨ env.preparedTable s.table ⟨defaultNet, 0⟩ ≠ none := by
  rw [setPbrRoute_fst h, RouteTable.add_fst_eq_false]

/-- What is there of the default routes when the new one is added. -/
theorem preparedTable_default (t : PbrTable) : env.preparedTable t ⟨defaultNet, 0⟩ =
    env.defaultLan.or (if env.flushOk then none else t ⟨defaultNet, 0⟩) := by
  rw [preparedTable, ensurePbrEthLanRoute_default, RouteTable.flush]
  split <;> rfl

theorem preparedTable_of_metric (t : PbrTable) {m : ℕ} (hm : m ≠ 0) :
    env.preparedTable t ⟨defaultNet, m⟩ = if env.flushOk then none else t ⟨defaultNet, m⟩ := by
  rw [preparedTable, ensurePbrEthLanRoute_of_metric _ hm, RouteTable.flush]
  split <;> rfl

/-- Without a default route for the flight controller the default routes are those that the flush
has left. -/
theorem preparedTable_of_defaultLan_eq_none (h : env.defaultLan = none) (t : PbrTable) (m : ℕ) :
    env.preparedTable t ⟨defaultNet, m⟩ = if env.flushOk then none else t ⟨defaultNet, m⟩ := by
  by_cases hm : m = 0
  · rw [hm, preparedTable_default, h, Option.none_or]
  · exact preparedTable_of_metric t hm

/-- The usual case: the network of the flight controller is not everything. -/
theorem keeps_default_iff_of_defaultLan_eq_none
    (h : ¬ (iface = wwan0 ∧ env.hasIface wwan0 = false)) (hlan : env.defaultLan = none)
    (hdefault : ∃ m r, s.table ⟨defaultNet, m⟩ = some r) :
    ((env.setPbrRoute iface gateway s).1 = false →
        KeepsDefaults s.table (env.setPbrRoute iface gateway s).2.table) ↔
      env.flushOk = false ∨ env.addOk = true := by
  have hprepared := preparedTable_of_defaultLan_eq_none hlan s.table
  constructor
  · intro hkeeps
    by_contra hnot
    obtain ⟨hflush, hadd⟩ : env.flushOk = true ∧ env.addOk = false := by simpa using hnot
    -- the flush has emptied the table, and nothing was added
    have hfailed : (env.setPbrRoute iface gateway s).1 = false :=
      (setPbrRoute_fst_eq_false h).mpr (.inl hadd)
    obtain ⟨m, r, hr⟩ := hdefault
    have hkept := hkeeps hfailed m r hr
    rw [setPbrRoute_table_of_failed h hfailed, hprepared, hflush] at hkept
    cases hkept
  · intro hor hfailed
    -- the last command fails by itself only where the flush has left a default route
    have hflush : env.flushOk = false := by
      by_contra hflush
      rw [Bool.not_eq_false] at hflush
      have hadd := hor.resolve_left (by rw [hflush]; decide)
      rw [setPbrRoute_fst_eq_false h, hprepared, hadd, hflush] at hfailed
      exact hfailed.elim Bool.noConfusion fun hthere ↦ hthere rfl
    intro m r hr
    rw [setPbrRoute_table_of_failed h hfailed, hprepared, hflush]
    exact hr

/-- Where the network of the flight controller is everything, its route is a default route in the
way of the new one. -/
theorem keeps_default_iff_of_defaultLan_eq_some
    (h : ¬ (iface = wwan0 ∧ env.hasIface wwan0 = false)) {lan : Route}
    (hlan : env.defaultLan = some lan) :
    ((env.setPbrRoute iface gateway s).1 = false →
        KeepsDefaults s.table (env.setPbrRoute iface gateway s).2.table) ↔
      ∀ m r, s.table ⟨defaultNet, m⟩ = some r →
        m = 0 ∧ r = lan ∨ m ≠ 0 ∧ env.flushOk = false := by
  have hzero : env.preparedTable s.table ⟨defaultNet, 0⟩ = some lan := by
    rw [preparedTable_default, hlan, Option.some_or]
  have hfailed : (env.setPbrRoute iface gateway s).1 = false :=
    (setPbrRoute_fst_eq_false h).mpr (.inr (by rw [hzero]; exact Option.some_ne_none lan))
  rw [setPbrRoute_table_of_failed h hfailed]
  refine (forall_prop_of_true hfailed).trans (forall₂_congr fun m r ↦ forall_congr' fun hr ↦ ?_)
  by_cases hm : m = 0
  · subst hm
    rw [hzero, Option.some_inj]
    simp only [true_and, ne_eq, not_true, false_and, or_false]
    exact eq_comm
  · rw [preparedTable_of_metric _ hm, hr]
    simp [hm]

/-- **A failed switch.** It has left the default routes in place exactly when the modem was missing,
or the flush failed, or the last command could succeed. Where the network of the flight controller
is everything, its route must moreover be the one that was there. -/
theorem setPbrRoute_keeps_default_iff (hdefault : ∃ m r, s.table ⟨defaultNet, m⟩ = some r) :
    ((env.setPbrRoute iface gateway s).1 = false →
        KeepsDefaults s.table (env.setPbrRoute iface gateway s).2.table) ↔
      (iface = wwan0 ∧ env.hasIface wwan0 = false) ∨
      (env.defaultLan = none ∧ (env.flushOk = false ∨ env.addOk = true)) ∨
      ∃ lan, env.defaultLan = some lan ∧ ∀ m r, s.table ⟨defaultNet, m⟩ = some r →
        m = 0 ∧ r = lan ∨ m ≠ 0 ∧ env.flushOk = false := by
  by_cases h : iface = wwan0 ∧ env.hasIface wwan0 = false
  · rw [setPbrRoute_of_missing h]
    exact iff_of_true (fun _ _ _ hr ↦ hr) (.inl h)
  · cases hlan : env.defaultLan with
    | none => simpa [h] using keeps_default_iff_of_defaultLan_eq_none h hlan hdefault
    | some lan => simpa [h] using keeps_default_iff_of_defaultLan_eq_some h hlan

end

/-- A board on 4G that is to be switched to WiFi. -/
def wifiSwitch (flushOk addOk : Bool) : PbrEnv where
  hasIface := fun _ ↦ true
  ifaceIp := fun _ ↦ some "10.41.10.1".toList
  parseDst := fun t ↦ if t = "10.41.10.0/24".toList then some ⟨⟨10, 41, 10, 0⟩, 24⟩ else none
  flushOk := flushOk
  lanOk := true
  addOk := addOk

def wwanState : PbrState where
  table := Function.update RouteTable.empty ⟨defaultNet, 0⟩ (some { dev := wwan0 })

/-- Where every command fails nothing is lost. -/
theorem setPbrRoute_keeps_default_all_failed :
    (∃ m r, wwanState.table ⟨defaultNet, m⟩ = some r) ∧
      ((wifiSwitch false false).setPbrRoute "wlan0".toList none wwanState).1 = false ∧
      KeepsDefaults wwanState.table
        ((wifiSwitch false false).setPbrRoute "wlan0".toList none wwanState).2.table :=
  ⟨⟨0, { dev := wwan0 }, rfl⟩, by decide +kernel,
    (setPbrRoute_keeps_default_iff ⟨0, { dev := wwan0 }, rfl⟩).mpr
      (.inr (.inl ⟨by decide +kernel, .inl rfl⟩)) (by decide +kernel)⟩

/-- The flush succeeds and the new route does not: the switch fails, and neither the old nor the new
default route is there. -/
theorem setPbrRoute_loses_default :
    (∃ m r, wwanState.table ⟨defaultNet, m⟩ = some r) ∧
      ((wifiSwitch true false).setPbrRoute "wlan0".toList none wwanState).1 = false ∧
      ((wifiSwitch true false).setPbrRoute "wlan0".toList none wwanState).2.table
        ⟨defaultNet, 0⟩ = none ∧
      ¬ KeepsDefaults wwanState.table
        ((wifiSwitch true false).setPbrRoute "wlan0".toList none wwanState).2.table := by
  have hnone : ((wifiSwitch true false).setPbrRoute "wlan0".toList none wwanState).2.table
      ⟨defaultNet, 0⟩ = none := by
    decide +kernel
  refine ⟨⟨0, { dev := wwan0 }, rfl⟩, by decide +kernel, hnone, fun hkeeps ↦ ?_⟩
  have hkept := hkeeps 0 { dev := wwan0 } rfl
  rw [hnone] at hkept
  cases hkept

end PbrEnv

end DroneBridge
