import DroneBridge.Lib.PolicyRouting
import DroneBridge.Netmon.PbrRoute

/-!
# The planes of the board

The cloud uplink has a routing table of its own. Two more tables keep the rest of the traffic away
from it: replies to those who administer the board leave through `wlan0` by the address that they
come from, and so do packets to the flight controller through the Ethernet port. The main table is
for everything else, and the monitor keeps a default route on `wlan0` there. In every cycle it
writes a table, adds a rule if the listing does not show it, and tries the modem through routes
that it puts in the main table for the time of a probe. Each command may fail, and its result is
mostly not looked at.

What a cycle leaves of the main table is said by `main_routes_kept`. That the planes hold, whatever
the table of the uplink says and whatever fails later, is `planes_apart`.
-/

open scoped List

namespace DroneBridge

/-! ## The kernel -/

inductive RuleSelector
  | all
  | fwmark
  /-- `from` an address. -/
  | source (ip : Text)
  deriving DecidableEq

inductive RuleTable
  | cloud
  | wlanReply
  | ethPixhawk
  | main
  deriving DecidableEq

structure PolicyRule where
  priority : ℕ
  selector : RuleSelector
  table : RuleTable
  deriving DecidableEq

abbrev Routes := RouteList RouteKey Route

/-- The rules and tables that this code has to do with, but for the table of the uplink. -/
structure PolicyKernel where
  rules : List PolicyRule
  wlanReply : Routes := []
  ethPixhawk : Routes := []
  main : Routes := []

/-- A packet that leaves the board. -/
structure OutPacket where
  src : Text
  dst : Ipv4
  marked : Bool

namespace Routes

/-- The longest prefix decides, and of the routes with this prefix the least metric. -/
def lookup (t : Routes) (dst : Ipv4) : Option Route :=
  (t.best (fun k ↦ decide (k.dst.Contains dst))
    fun k ↦ toLex (k.dst.prefixLen, OrderDual.toDual k.metric)).map Prod.snd

/-- There is a route for this network. -/
def Has (t : Routes) (net : Ipv4Network) : Prop := ∃ e ∈ t, e.1.dst = net

variable {t : Routes} {net : Ipv4Network} {dst : Ipv4} {dev : Text}

/-- A route that is replaced leaves its network to the new one. -/
theorem Has.replace (h : t.Has net) (ok : Bool) (key : RouteKey) (r : Route) :
    Routes.Has (t.replace ok key r) net := by
  obtain ⟨e, he, hdst⟩ := h
  by_cases hkey : ok = true ∧ e.1 = key
  · exact ⟨(key, r), RouteList.mem_replace.mpr (.inl ⟨hkey.1, rfl⟩), hkey.2 ▸ hdst⟩
  · exact ⟨e, RouteList.mem_replace.mpr (.inr ⟨he, fun hok heq ↦ hkey ⟨hok, heq⟩⟩), hdst⟩

theorem Has.linkDown (h : t.Has net) (hdev : ∀ e ∈ t, e.2.dev = dev) {dev' : Text}
    (hne : dev ≠ dev') : Routes.Has (t.filter (·.2.dev ≠ dev')) net := by
  obtain ⟨e, he, hdst⟩ := h
  exact ⟨e, List.mem_filter.mpr ⟨he, by simpa [hdev e he] using hne⟩, hdst⟩

/-- Where every route is through one interface, a destination with a route is reached through it. -/
theorem Has.lookup (h : t.Has net) (hnet : net.Contains dst) (hdev : ∀ e ∈ t, e.2.dev = dev) :
    ∃ r, t.lookup dst = some r ∧ r.dev = dev := by
  obtain ⟨e, he, rfl⟩ := h
  obtain ⟨e', he'⟩ : ∃ e', t.best (fun k ↦ decide (k.dst.Contains dst))
      (fun k ↦ toLex (k.dst.prefixLen, OrderDual.toDual k.metric)) = some e' :=
    RouteList.exists_best he (decide_eq_true hnet)
  exact ⟨e'.2, by rw [Routes.lookup, he', Option.map_some], hdev e' (RouteList.mem_of_best he').1⟩

theorem dev_of_lookup {r : Route} (h : t.lookup dst = some r) (hdev : ∀ e ∈ t, e.2.dev = dev) :
    r.dev = dev := by
  obtain ⟨e, he, rfl⟩ := Option.map_eq_some_iff.mp h
  exact hdev e (RouteList.mem_of_best he).1

end Routes

namespace PolicyKernel

def selects (p : OutPacket) : RuleSelector → Bool
  | .all => true
  | .fwmark => p.marked
  | .source ip => p.src = ip

/-- The route that a rule gives for a packet. What the table of the uplink has is a parameter. -/
def ruleRoute (k : PolicyKernel) (cloud : OutPacket → Option Route) (p : OutPacket)
    (r : PolicyRule) : Option Route :=
  if selects p r.selector then
    match r.table with
    | .cloud => cloud p
    | .wlanReply => k.wlanReply.lookup p.dst
    | .ethPixhawk => k.ethPixhawk.lookup p.dst
    | .main => k.main.lookup p.dst
  else none

def route (k : PolicyKernel) (cloud : OutPacket → Option Route) (p : OutPacket) : Option Route :=
  k.rules.findSome? (k.ruleRoute cloud p)

/-- `ip rule add`, which fails for a rule that is there. -/
def addRule (ok : Bool) (r : PolicyRule) (k : PolicyKernel) : PolicyKernel :=
  if ok && r ∉ k.rules then { k with rules := insertRule PolicyRule.priority r k.rules } else k

section AddRule

variable {k : PolicyKernel} {ok : Bool} {r r' : PolicyRule}

@[simp] theorem addRule_main : (k.addRule ok r).main = k.main := by
  rw [addRule]
  split_ifs <;> rfl

@[simp] theorem addRule_wlanReply : (k.addRule ok r).wlanReply = k.wlanReply := by
  rw [addRule]
  split_ifs <;> rfl

@[simp] theorem addRule_ethPixhawk : (k.addRule ok r).ethPixhawk = k.ethPixhawk := by
  rw [addRule]
  split_ifs <;> rfl

theorem mem_addRule : r' ∈ (k.addRule ok r).rules ↔ r' ∈ k.rules ∨ ok = true ∧ r' = r := by
  rw [addRule]
  split_ifs with h
  · rw [Bool.and_eq_true] at h
    rw [mem_insertRule, or_comm, and_iff_right h.1]
  · grind

theorem byPriority_addRule (h : ByPriority PolicyRule.priority k.rules) :
    ByPriority PolicyRule.priority (k.addRule ok r).rules := by
  rw [addRule]
  split_ifs
  · exact byPriority_insertRule h
  · exact h

end AddRule

end PolicyKernel

/-! ## A cycle -/

def wlan0 : Text := "wlan0".toList

def wlanReplyRule (ip : Text) : PolicyRule := ⟨50, .source ip, .wlanReply⟩

def ethPixhawkRule (ip : Text) : PolicyRule := ⟨45, .source ip, .ethPixhawk⟩

def fwmarkRule : PolicyRule := ⟨100, .fwmark, .cloud⟩

/-- A probe of the modem: where it goes, what becomes of its commands, and whether it succeeds. -/
structure WwanProbe where
  host : Text
  clearOk : Bool
  addOk : Bool
  answered : Bool
  removeOk : Bool

/-- What a cycle meets. -/
structure PlaneEnv where
  lan : EthernetLan
  /-- The address of an interface that is up. -/
  ifaceIp : Text → Option Text
  /-- The gateway in the routes of `wlan0`. -/
  wifiVia : Option Text
  parseDst : Text → Option Ipv4Network
  /-- The output of `ip rule show`, by the reader. -/
  ruleShowWlan : Text := []
  ruleShowEth : Text := []
  /-- The listing shows the rule for marked packets. -/
  fwmarkShown : Bool := true
  wlanRouteOk : Bool
  wlanRuleOk : Bool
  ethRouteOk : Bool
  ethRuleOk : Bool
  fwmarkRuleOk : Bool := true
  wifiOnly : Bool
  ping : WwanProbe
  tcp : WwanProbe
  /-- The second target, unless it is the first one or not set. -/
  tcpFallback : Option WwanProbe
  deleteDefaultOk : Bool
  /-- `ip route show default dev wlan0` succeeds. -/
  showDefaultOk : Bool
  addDefaultOk : Bool

namespace PlaneEnv

open PbrEnv (wwan0 beforeLastColon)

variable (env : PlaneEnv)

/-- `rsplit(".", 1)[0] + ".1"` -/
def conventionalGateway (ip : Text) : Text :=
  (match ip.reverse.dropWhile (· ≠ '.') with
    | [] => ip
    | _ :: rest => rest.reverse) ++ ".1".toList

def getWifiGateway : Option Text := env.wifiVia.or ((env.ifaceIp wlan0).map conventionalGateway)

def wlanRuleKey (ip : Text) : Text := "from ".toList ++ ip ++ "/32 lookup wlan_reply".toList

def ethRuleKey (ip : Text) : Text := "from ".toList ++ ip ++ "/32 lookup eth_pixhawk".toList

/-- The command for a text that is no destination fails. -/
def onDst {α : Type*} (t : Text) (unchanged : α) (f : Ipv4Network → α) : α :=
  match env.parseDst t with
  | some dst => f dst
  | none => unchanged

def ensureWlanAdminReply (k : PolicyKernel) : PolicyKernel :=
  match env.ifaceIp wlan0, env.getWifiGateway with
  | some ip, some gw =>
    let k := { k with
      wlanReply := k.wlanReply.replace env.wlanRouteOk ⟨defaultNet, 0⟩
        { gateway := some gw, dev := wlan0 } }
    if wlanRuleKey ip <:+: env.ruleShowWlan then k
    else k.addRule env.wlanRuleOk (wlanReplyRule ip)
  | _, _ => k

def ensureEthPixhawkPlane (k : PolicyKernel) : PolicyKernel :=
  match env.ifaceIp env.lan.interface with
  | some ip =>
    let k := { k with
      ethPixhawk := env.onDst env.lan.cidr k.ethPixhawk fun dst ↦
        k.ethPixhawk.replace env.ethRouteOk ⟨dst, 0⟩ { dev := env.lan.interface } }
    if ethRuleKey ip <:+: env.ruleShowEth then k
    else k.addRule env.ethRuleOk (ethPixhawkRule ip)
  | none => k

def ensureLocalPlanes (k : PolicyKernel) : PolicyKernel :=
  env.ensureEthPixhawkPlane (env.ensureWlanAdminReply k)

def verifyPbrRule (k : PolicyKernel) : PolicyKernel :=
  if env.fwmarkShown then k else k.addRule env.fwmarkRuleOk fwmarkRule

/-- A route of the main table to this destination through this interface. -/
def onDev (dst : Ipv4Network) (dev : Text) (e : RouteKey × Route) : Bool :=
  e.1.dst = dst && e.2.dev = dev

/-- A probe clears its route, adds it, and removes it if it has added it. -/
def probe (p : WwanProbe) (main : Routes) : Routes :=
  env.onDst (p.host ++ "/32".toList) main fun dst ↦
    let added := (main.delete p.clearOk (onDev dst wwan0)).add p.addOk ⟨dst, 0⟩ { dev := wwan0 }
    if added.1 then added.2.delete p.removeOk (onDev dst wwan0) else added.2

/-- The probes that a cycle makes: TCP where the ping fails, and the second target where the first
one fails. -/
def wwanProbes : List WwanProbe :=
  if env.wifiOnly || (env.ifaceIp wwan0).isNone then []
  else if env.ping.answered then [env.ping]
  else if env.tcp.answered then [env.ping, env.tcp]
  else env.ping :: env.tcp :: env.tcpFallback.toList

def ensureSystemWifiRoute (main : Routes) : Routes :=
  if env.showDefaultOk && main.any (onDev defaultNet wlan0) then main
  else
    match env.getWifiGateway with
    | some gw => (main.add env.addDefaultOk ⟨defaultNet, 0⟩ { gateway := some gw, dev := wlan0 }).2
    | none => main

def ensureSystemDefaultRoute (main : Routes) : Routes :=
  env.ensureSystemWifiRoute (main.delete env.deleteDefaultOk (onDev defaultNet wwan0))

/-- What `apply_routing_policy` does to the rules and to these tables. -/
def cycle (k : PolicyKernel) : PolicyKernel :=
  let k := env.verifyPbrRule (env.ensureLocalPlanes k)
  let probed := env.wwanProbes.foldl (fun t p ↦ env.probe p t) k.main
  { k with main := env.ensureSystemDefaultRoute probed }

end PlaneEnv

/-- What happens to the rules and tables. -/
inductive PlaneEvent
  | cycle (env : PlaneEnv)
  /-- An interface goes down, and the kernel removes its routes. -/
  | linkDown (dev : Text)
  /-- Somebody else changes the main table. -/
  | foreign (main : Routes)

def PolicyKernel.step (k : PolicyKernel) : PlaneEvent → PolicyKernel
  | .cycle env => env.cycle k
  | .linkDown dev =>
    { k with
      wlanReply := k.wlanReply.filter (·.2.dev ≠ dev)
      ethPixhawk := k.ethPixhawk.filter (·.2.dev ≠ dev)
      main := k.main.filter (·.2.dev ≠ dev) }
  | .foreign main => { k with main := main }

def PolicyKernel.after (k : PolicyKernel) (es : List PlaneEvent) : PolicyKernel :=
  es.foldl PolicyKernel.step k

/-! ## The main table -/

namespace PlaneEnv

open PbrEnv (wwan0)

variable {env : PlaneEnv} {t : Routes} {k : PolicyKernel}

/-- What the probes have nothing to do with. -/
def offWwan (t : Routes) : Routes := t.filter (·.2.dev ≠ wwan0)

theorem offWwan_delete (ok : Bool) (dst : Ipv4Network) :
    offWwan (t.delete ok (onDev dst wwan0)) = offWwan t := by
  refine RouteList.filter_delete fun e he ↦ ?_
  have hdev : e.2.dev = wwan0 := by
    simp only [onDev, Bool.and_eq_true, decide_eq_true_eq] at he
    exact he.2
  simp [hdev]

theorem offWwan_probe (p : WwanProbe) : offWwan (env.probe p t) = offWwan t := by
  rw [probe, onDst]
  cases env.parseDst (p.host ++ "/32".toList) with
  | none => rfl
  | some dst =>
    simp only
    rw [RouteList.add_snd]
    split_ifs
    · rw [offWwan_delete, offWwan, List.filter_cons_of_neg (by simp), ← offWwan, offWwan_delete]
    · exact offWwan_delete _ _

/-- A default route of metric 0 on `wlan0`. -/
def IsWifiDefault (e : RouteKey × Route) : Prop := e.1 = ⟨defaultNet, 0⟩ ∧ e.2.dev = wlan0

/-- The default route is added only where there is none of its key. -/
theorem ensureSystemWifiRoute_cases : env.ensureSystemWifiRoute t = t ∨
    (∀ e ∈ t, e.1 ≠ ⟨defaultNet, 0⟩) ∧
      ∃ e, IsWifiDefault e ∧ env.ensureSystemWifiRoute t = e :: t := by
  rw [ensureSystemWifiRoute]
  split_ifs
  · exact .inl rfl
  · cases env.getWifiGateway with
    | none => exact .inl rfl
    | some gw =>
      simp only
      rw [RouteList.add_snd]
      split_ifs with hadd
      · rw [RouteList.add_fst, Bool.and_eq_true, List.all_eq_true] at hadd
        exact .inr ⟨fun e he ↦ by simpa using hadd.2 e he, _, ⟨rfl, rfl⟩, rfl⟩
      · exact .inl rfl

theorem main_ensureLocalPlanes : (env.ensureLocalPlanes k).main = k.main := by
  have hwlan : (env.ensureWlanAdminReply k).main = k.main := by
    rw [ensureWlanAdminReply]
    split
    · simp only [apply_ite PolicyKernel.main, PolicyKernel.addRule_main, ite_self]
    · rfl
  rw [ensureLocalPlanes, ← hwlan, ensureEthPixhawkPlane]
  split
  · simp only [apply_ite PolicyKernel.main, PolicyKernel.addRule_main, ite_self]
  · rfl

theorem main_cycle : (env.cycle k).main =
    env.ensureSystemDefaultRoute (env.wwanProbes.foldl (fun t p ↦ env.probe p t) k.main) := by
  rw [cycle, verifyPbrRule]
  simp only [apply_ite PolicyKernel.main, PolicyKernel.addRule_main, ite_self,
    main_ensureLocalPlanes]

theorem offWwan_probes (env : PlaneEnv) (ps : List WwanProbe) :
    offWwan (ps.foldl (fun t p ↦ env.probe p t) t) = offWwan t := by
  induction ps generalizing t with
  | nil => rfl
  | cons p ps ih => rw [List.foldl_cons, ih, offWwan_probe]

/-- A cycle leaves what is not on `wwan0` as it is, but for a default route on `wlan0` that it adds
where there is none of metric 0. -/
theorem offWwan_cycle (env : PlaneEnv) (k : PolicyKernel) :
    offWwan (env.cycle k).main = offWwan k.main ∨
    (∀ e ∈ offWwan k.main, e.1 ≠ ⟨defaultNet, 0⟩) ∧
      ∃ e, IsWifiDefault e ∧ offWwan (env.cycle k).main = e :: offWwan k.main := by
  have hmain := (offWwan_delete env.deleteDefaultOk defaultNet).trans
    (offWwan_probes (t := k.main) env env.wwanProbes)
  rw [main_cycle, ensureSystemDefaultRoute, ← hmain]
  generalize RouteList.delete _ _ _ = main
  obtain h | ⟨hnone, e, he, h⟩ := env.ensureSystemWifiRoute_cases (t := main)
  · exact .inl (by rw [h])
  · refine .inr ⟨fun e' he' ↦ hnone e' (List.mem_of_mem_filter he'), e, he, ?_⟩
    rw [h, offWwan, List.filter_cons_of_pos (by simp [he.2, wlan0, wwan0])]
    rfl

/-- The routes of the probes that are left when a removal fails. -/
def Leftover (env : PlaneEnv) (e : RouteKey × Route) : Prop :=
  ∃ p ∈ env.wwanProbes, p.removeOk = false ∧
    env.parseDst (p.host ++ "/32".toList) = some e.1.dst ∧ e.1.metric = 0 ∧ e.2 = { dev := wwan0 }

theorem mem_probe {p : WwanProbe} {e : RouteKey × Route} (he : e ∈ env.probe p t) :
    e ∈ t ∨ p.removeOk = false ∧ env.parseDst (p.host ++ "/32".toList) = some e.1.dst ∧
      e.1.metric = 0 ∧ e.2 = { dev := wwan0 } := by
  rw [probe, onDst] at he
  cases hdst : env.parseDst (p.host ++ "/32".toList) with
  | none =>
    rw [hdst] at he
    exact .inl he
  | some dst =>
    rw [hdst] at he
    simp only at he
    rw [RouteList.add_snd] at he
    split_ifs at he
    · -- the route that was added is the first one, and its removal takes it if it succeeds
      rw [RouteList.delete] at he
      split_ifs at he with hremove
      · rw [List.eraseP_cons_of_pos (by simp [onDev])] at he
        exact .inl (RouteList.mem_of_mem_delete he)
      · obtain rfl | he := List.mem_cons.mp he
        · exact .inr ⟨by simpa using hremove, rfl, rfl, rfl⟩
        · exact .inl (RouteList.mem_of_mem_delete he)
    · exact .inl (RouteList.mem_of_mem_delete he)

theorem mem_probes {ps : List WwanProbe} {e : RouteKey × Route}
    (he : e ∈ ps.foldl (fun t p ↦ env.probe p t) t) :
    e ∈ t ∨ ∃ p ∈ ps, p.removeOk = false ∧
      env.parseDst (p.host ++ "/32".toList) = some e.1.dst ∧ e.1.metric = 0 ∧
      e.2 = { dev := wwan0 } := by
  induction ps generalizing t with
  | nil => exact .inl he
  | cons p ps ih =>
    obtain he | ⟨q, hq, hleft⟩ := ih he
    · refine (mem_probe he).imp_right fun hleft ↦ ⟨p, List.mem_cons_self, hleft⟩
    · exact .inr ⟨q, List.mem_cons_of_mem _ hq, hleft⟩

/-- What is on `wwan0` after a cycle was there before, or is what a probe could not remove. -/
theorem mem_main_cycle {e : RouteKey × Route} (he : e ∈ (env.cycle k).main)
    (hdev : e.2.dev = wwan0) : e ∈ k.main ∨ env.Leftover e := by
  rw [main_cycle, ensureSystemDefaultRoute] at he
  obtain h | ⟨-, e', he', h⟩ := env.ensureSystemWifiRoute_cases <;> rw [h] at he
  · exact mem_probes (RouteList.mem_of_mem_delete he)
  · obtain rfl | he := List.mem_cons.mp he
    · rw [he'.2] at hdev
      cases hdev
    · exact mem_probes (RouteList.mem_of_mem_delete he)

/-- A cycle that knows a gateway and whose last command works leaves a default route, on `wlan0` or
with the least metric. -/
theorem exists_default_of_cycle (hgw : env.getWifiGateway.isSome) (hadd : env.addDefaultOk = true) :
    ∃ e ∈ (env.cycle k).main, e.1.dst = defaultNet ∧ (e.2.dev = wlan0 ∨ e.1.metric = 0) := by
  rw [main_cycle, ensureSystemDefaultRoute]
  generalize RouteList.delete _ _ _ = main
  obtain ⟨gw, hgw⟩ := Option.isSome_iff_exists.mp hgw
  rw [ensureSystemWifiRoute, hgw]
  split_ifs with hthere
  · obtain ⟨e, he, hon⟩ := List.any_eq_true.mp (Bool.and_eq_true _ _ ▸ hthere).2
    simp only [onDev, Bool.and_eq_true, decide_eq_true_eq] at hon
    exact ⟨e, he, hon.1, .inl hon.2⟩
  · simp only
    rw [RouteList.add_snd]
    split_ifs with hadded
    · exact ⟨_, List.mem_cons_self, rfl, .inl rfl⟩
    · -- nothing but a route of this key makes the command fail
      rw [RouteList.add_fst, hadd, Bool.true_and, List.all_eq_true] at hadded
      push Not at hadded
      obtain ⟨e, he, hkey⟩ := hadded
      have hkey : e.1 = ⟨defaultNet, 0⟩ := by simpa using hkey
      exact ⟨e, he, by rw [hkey], .inr (by rw [hkey])⟩

/-- The main table after a number of cycles. -/
def cycles (envs : List PlaneEnv) (k : PolicyKernel) : PolicyKernel :=
  envs.foldl (fun k env ↦ env.cycle k) k

end PlaneEnv

open PlaneEnv in
/-- Over any number of cycles the routes of the main table that are not on `wwan0` stay, and at most
a default route on `wlan0` is added. A new route on `wwan0` is one that a probe has added and failed
to remove. -/
theorem main_routes_kept (k : PolicyKernel) (envs : List PlaneEnv) :
    (∃ added, offWwan (cycles envs k).main = added ++ offWwan k.main ∧ added.length ≤ 1 ∧
      ∀ e ∈ added, IsWifiDefault e) ∧
    (∀ e ∈ (cycles envs k).main, e.2.dev = PbrEnv.wwan0 →
      e ∈ k.main ∨ ∃ env ∈ envs, env.Leftover e) ∧
    (∀ env ∈ envs.getLast?, env.getWifiGateway.isSome → env.addDefaultOk = true →
      ∃ e ∈ (cycles envs k).main, e.1.dst = defaultNet ∧ (e.2.dev = wlan0 ∨ e.1.metric = 0)) := by
  refine ⟨?_, ?_, ?_⟩
  · induction envs using List.reverseRecOn with
    | nil => exact ⟨[], rfl, Nat.zero_le _, by simp⟩
    | append_singleton envs env ih =>
      obtain ⟨added, hadded, hlen, hdefault⟩ := ih
      rw [cycles, List.foldl_concat, ← cycles]
      obtain h | ⟨hnone, e, he, h⟩ := offWwan_cycle env (cycles envs k)
      · exact ⟨added, h.trans hadded, hlen, hdefault⟩
      · -- a default route that was added before would have stopped this one
        have hnil : added = [] := by
          refine List.eq_nil_iff_forall_not_mem.mpr fun e' he' ↦ ?_
          exact hnone e' (hadded ▸ List.mem_append_left _ he') (hdefault e' he').1
        refine ⟨[e], ?_, Nat.le_refl _, List.forall_mem_singleton.mpr he⟩
        rw [h, hadded, hnil]
        rfl
  · intro e he hdev
    induction envs using List.reverseRecOn with
    | nil => exact .inl he
    | append_singleton envs env ih =>
      rw [cycles, List.foldl_concat, ← cycles] at he
      obtain he | hleft := mem_main_cycle he hdev
      · refine (ih he).imp_right ?_
        rintro ⟨env', henv', hleft⟩
        exact ⟨env', List.mem_append_left _ henv', hleft⟩
      · exact .inr ⟨env, List.mem_append_right _ List.mem_cons_self, hleft⟩
  · intro env hlast hgw hadd
    obtain ⟨envs, rfl⟩ := List.getLast?_eq_some_iff.mp hlast
    rw [cycles, List.foldl_concat]
    exact exists_default_of_cycle hgw hadd

/-! ## The planes -/

namespace PlaneEnv

variable {env : PlaneEnv} {k : PolicyKernel} {r : PolicyRule}

theorem mem_rules_ensureWlanAdminReply : r ∈ (env.ensureWlanAdminReply k).rules ↔
    r ∈ k.rules ∨ ∃ ip gw, env.ifaceIp wlan0 = some ip ∧ env.getWifiGateway = some gw ∧
      ¬ wlanRuleKey ip <:+: env.ruleShowWlan ∧ env.wlanRuleOk = true ∧ r = wlanReplyRule ip := by
  rw [ensureWlanAdminReply]
  split
  next ip gw hip hgw =>
    simp only
    split_ifs with hshown
    · simp [hip, hshown]
    · simp [PolicyKernel.mem_addRule, hip, hgw, hshown]
  next hnot =>
    refine (or_iff_left ?_).symm
    rintro ⟨ip, gw, hip, hgw, -⟩
    exact hnot ip gw hip hgw

theorem mem_rules_ensureEthPixhawkPlane : r ∈ (env.ensureEthPixhawkPlane k).rules ↔
    r ∈ k.rules ∨ ∃ ip, env.ifaceIp env.lan.interface = some ip ∧
      ¬ ethRuleKey ip <:+: env.ruleShowEth ∧ env.ethRuleOk = true ∧ r = ethPixhawkRule ip := by
  rw [ensureEthPixhawkPlane]
  split
  next ip hip =>
    simp only
    split_ifs with hshown
    · simp [hip, hshown]
    · simp [PolicyKernel.mem_addRule, hip, hshown]
  next hip => simp [hip]

theorem mem_rules_verifyPbrRule : r ∈ (env.verifyPbrRule k).rules ↔
    r ∈ k.rules ∨ env.fwmarkShown = false ∧ env.fwmarkRuleOk = true ∧ r = fwmarkRule := by
  rw [verifyPbrRule]
  split_ifs with hshown
  · simp [hshown]
  · simp [PolicyKernel.mem_addRule, hshown]

theorem mem_rules_cycle : r ∈ (env.cycle k).rules ↔ r ∈ k.rules ∨
    (∃ ip gw, env.ifaceIp wlan0 = some ip ∧ env.getWifiGateway = some gw ∧
      ¬ wlanRuleKey ip <:+: env.ruleShowWlan ∧ env.wlanRuleOk = true ∧ r = wlanReplyRule ip) ∨
    (∃ ip, env.ifaceIp env.lan.interface = some ip ∧
      ¬ ethRuleKey ip <:+: env.ruleShowEth ∧ env.ethRuleOk = true ∧ r = ethPixhawkRule ip) ∨
    env.fwmarkShown = false ∧ env.fwmarkRuleOk = true ∧ r = fwmarkRule := by
  rw [cycle, mem_rules_verifyPbrRule, ensureLocalPlanes, mem_rules_ensureEthPixhawkPlane,
    mem_rules_ensureWlanAdminReply, or_assoc, or_assoc]

theorem byPriority_cycle (h : ByPriority PolicyRule.priority k.rules) :
    ByPriority PolicyRule.priority (env.cycle k).rules := by
  have hwlan : ByPriority PolicyRule.priority (env.ensureWlanAdminReply k).rules := by
    rw [ensureWlanAdminReply]
    split
    · simp only
      split_ifs
      · exact h
      · exact PolicyKernel.byPriority_addRule h
    · exact h
  have heth : ByPriority PolicyRule.priority (env.ensureLocalPlanes k).rules := by
    rw [ensureLocalPlanes, ensureEthPixhawkPlane]
    split
    · simp only
      split_ifs
      · exact hwlan
      · exact PolicyKernel.byPriority_addRule hwlan
    · exact hwlan
  rw [cycle, verifyPbrRule]
  split_ifs
  · exact heth
  · exact PolicyKernel.byPriority_addRule heth

theorem wlanReply_cycle : (env.cycle k).wlanReply =
    match env.ifaceIp wlan0, env.getWifiGateway with
    | some _, some gw => k.wlanReply.replace env.wlanRouteOk ⟨defaultNet, 0⟩
        { gateway := some gw, dev := wlan0 }
    | _, _ => k.wlanReply := by
  have heth (k : PolicyKernel) : (env.ensureEthPixhawkPlane k).wlanReply = k.wlanReply := by
    rw [ensureEthPixhawkPlane]
    split
    · simp only [apply_ite PolicyKernel.wlanReply, PolicyKernel.addRule_wlanReply, ite_self]
    · rfl
  rw [cycle, verifyPbrRule]
  simp only [apply_ite PolicyKernel.wlanReply, PolicyKernel.addRule_wlanReply, ite_self,
    ensureLocalPlanes, heth, ensureWlanAdminReply]
  cases env.ifaceIp wlan0 <;> cases env.getWifiGateway <;>
    simp only [apply_ite PolicyKernel.wlanReply, PolicyKernel.addRule_wlanReply, ite_self]

theorem ethPixhawk_cycle : (env.cycle k).ethPixhawk =
    match env.ifaceIp env.lan.interface, env.parseDst env.lan.cidr with
    | some _, some dst =>
      k.ethPixhawk.replace env.ethRouteOk ⟨dst, 0⟩ { dev := env.lan.interface }
    | _, _ => k.ethPixhawk := by
  have hwlan : (env.ensureWlanAdminReply k).ethPixhawk = k.ethPixhawk := by
    rw [ensureWlanAdminReply]
    split
    · simp only [apply_ite PolicyKernel.ethPixhawk, PolicyKernel.addRule_ethPixhawk, ite_self]
    · rfl
  rw [cycle, verifyPbrRule]
  simp only [apply_ite PolicyKernel.ethPixhawk, PolicyKernel.addRule_ethPixhawk, ite_self,
    ensureLocalPlanes, ensureEthPixhawkPlane, onDst, hwlan]
  cases env.ifaceIp env.lan.interface <;> cases env.parseDst env.lan.cidr <;>
    simp only [apply_ite PolicyKernel.ethPixhawk, PolicyKernel.addRule_ethPixhawk, ite_self, hwlan]

end PlaneEnv

namespace PolicyKernel

variable {k : PolicyKernel} {e : PlaneEvent} {es : List PlaneEvent}

/-- The rules are in their order, the first of them are those of the two planes, and the replies are
sent to `wlan0`. -/
structure Ordered (k : PolicyKernel) : Prop where
  sorted : ByPriority PolicyRule.priority k.rules
  first : ∀ r ∈ k.rules, r.priority ≤ 50 →
    (∃ ip, r = wlanReplyRule ip) ∨ ∃ ip, r = ethPixhawkRule ip
  reply : ∀ e ∈ k.wlanReply, e.2.dev = wlan0

theorem Ordered.step (h : Ordered k) (e : PlaneEvent) : Ordered (k.step e) := by
  cases e with
  | cycle env =>
    refine ⟨PlaneEnv.byPriority_cycle h.sorted, fun r hr hle ↦ ?_, ?_⟩
    · obtain hr | ⟨ip, -, -, -, -, -, rfl⟩ | ⟨ip, -, -, -, rfl⟩ | ⟨-, -, rfl⟩ :=
        PlaneEnv.mem_rules_cycle.mp hr
      · exact h.first r hr hle
      · exact .inl ⟨ip, rfl⟩
      · exact .inr ⟨ip, rfl⟩
      · exact absurd hle (by decide)
    · rw [PolicyKernel.step, PlaneEnv.wlanReply_cycle]
      split
      · intro e he
        obtain ⟨-, rfl⟩ | ⟨he, -⟩ := RouteList.mem_replace.mp he
        · rfl
        · exact h.reply e he
      · exact h.reply
  | linkDown dev => exact ⟨h.sorted, h.first, fun e he ↦ h.reply e (List.mem_of_mem_filter he)⟩
  | foreign main => exact ⟨h.sorted, h.first, h.reply⟩

theorem Ordered.after (h : Ordered k) (es : List PlaneEvent) : Ordered (k.after es) := by
  induction es using List.reverseRecOn with
  | nil => exact h
  | append_singleton es e ih =>
    rw [PolicyKernel.after, List.foldl_concat]
    exact ih.step e

/-- The rule for the replies from an address, and the default route that it leads to. -/
def Replies (ip : Text) (k : PolicyKernel) : Prop :=
  wlanReplyRule ip ∈ k.rules ∧ k.wlanReply.Has defaultNet

theorem Replies.after {ip : Text} (h : Replies ip k) (hk : Ordered k)
    (hdown : .linkDown wlan0 ∉ es) : Replies ip (k.after es) := by
  induction es using List.reverseRecOn with
  | nil => exact h
  | append_singleton es e ih =>
    rw [List.mem_append, not_or] at hdown
    obtain ⟨hrule, hroute⟩ := ih hdown.1
    rw [PolicyKernel.after, List.foldl_concat, ← PolicyKernel.after]
    cases e with
    | cycle env =>
      refine ⟨PlaneEnv.mem_rules_cycle.mpr (.inl hrule), ?_⟩
      rw [step, PlaneEnv.wlanReply_cycle]
      split
      · exact hroute.replace _ _ _
      · exact hroute
    | linkDown dev =>
      refine ⟨hrule, hroute.linkDown (hk.after es).reply ?_⟩
      rintro rfl
      exact hdown.2 List.mem_cons_self
    | foreign main => exact ⟨hrule, hroute⟩

/-- Every route to the flight controller is through this interface. -/
theorem dev_ethPixhawk_after {dev : Text} (h : ∀ e ∈ k.ethPixhawk, e.2.dev = dev)
    (hdev : ∀ env, .cycle env ∈ es → env.lan.interface = dev) :
    ∀ e ∈ (k.after es).ethPixhawk, e.2.dev = dev := by
  induction es using List.reverseRecOn with
  | nil => exact h
  | append_singleton es e ih =>
    simp only [List.mem_append, List.mem_singleton] at hdev
    have ih := ih fun env henv ↦ hdev env (.inl henv)
    rw [PolicyKernel.after, List.foldl_concat, ← PolicyKernel.after]
    cases e with
    | cycle env =>
      rw [step, PlaneEnv.ethPixhawk_cycle]
      split
      · intro e he
        obtain ⟨-, rfl⟩ | ⟨he, -⟩ := RouteList.mem_replace.mp he
        · exact hdev env (.inr rfl)
        · exact ih e he
      · exact ih
    | linkDown dev => exact fun e he ↦ ih e (List.mem_of_mem_filter he)
    | foreign main => exact ih

/-- The rule for packets from an address to the flight controller, and the route. -/
def Reaches (ip : Text) (net : Ipv4Network) (k : PolicyKernel) : Prop :=
  ethPixhawkRule ip ∈ k.rules ∧ k.ethPixhawk.Has net

theorem Reaches.after {ip dev : Text} {net : Ipv4Network} (h : Reaches ip net k)
    (hk : ∀ e ∈ k.ethPixhawk, e.2.dev = dev)
    (hdev : ∀ env, .cycle env ∈ es → env.lan.interface = dev)
    (hdown : .linkDown dev ∉ es) : Reaches ip net (k.after es) := by
  induction es using List.reverseRecOn with
  | nil => exact h
  | append_singleton es e ih =>
    rw [List.mem_append, not_or] at hdown
    simp only [List.mem_append, List.mem_singleton] at hdev
    have hes := fun env henv ↦ hdev env (.inl henv)
    obtain ⟨hrule, hroute⟩ := ih hes hdown.1
    rw [PolicyKernel.after, List.foldl_concat, ← PolicyKernel.after]
    cases e with
    | cycle env =>
      refine ⟨PlaneEnv.mem_rules_cycle.mpr (.inl hrule), ?_⟩
      rw [step, PlaneEnv.ethPixhawk_cycle]
      split
      · exact hroute.replace _ _ _
      · exact hroute
    | linkDown dev' =>
      refine ⟨hrule, hroute.linkDown (dev_ethPixhawk_after hk hes) ?_⟩
      rintro rfl
      exact hdown.2 List.mem_cons_self
    | foreign main => exact ⟨hrule, hroute⟩

/-- Rules for the addresses of the Ethernet port are all that comes of cycles. -/
theorem ethPixhawkRule_notMem_after {ip : Text} (h : ethPixhawkRule ip ∉ k.rules)
    (hne : ∀ env, .cycle env ∈ es → env.ifaceIp env.lan.interface ≠ some ip) :
    ethPixhawkRule ip ∉ (k.after es).rules := by
  induction es using List.reverseRecOn with
  | nil => exact h
  | append_singleton es e ih =>
    simp only [List.mem_append, List.mem_singleton] at hne
    have ih := ih fun env henv ↦ hne env (.inl henv)
    rw [PolicyKernel.after, List.foldl_concat, ← PolicyKernel.after]
    cases e with
    | cycle env =>
      intro hmem
      obtain hmem | ⟨_, -, -, -, -, -, hrule⟩ | ⟨ip', hip', -, -, hrule⟩ | ⟨-, -, hrule⟩ :=
        PlaneEnv.mem_rules_cycle.mp hmem
      · exact ih hmem
      · cases hrule
      · cases hrule
        exact hne env (.inr rfl) hip'
      · cases hrule
    | linkDown dev => exact ih
    | foreign main => exact ih

/-! ### Where packets go -/

theorem defaultNet_contains (ip : Ipv4) : defaultNet.Contains ip := by
  have ha := ip.a.toNat_lt
  have hb := ip.b.toNat_lt
  have hc := ip.c.toNat_lt
  have hd := ip.d.toNat_lt
  have hlt : ip.toNat < defaultNet.size := by
    simp only [Ipv4.toNat, Ipv4Network.size, defaultNet]
    omega
  rw [Ipv4Network.Contains, Nat.div_eq_of_lt hlt]
  rfl

/-- Replies from an address that the Ethernet port never had go to `wlan0`. -/
theorem Replies.route {p : OutPacket} (h : Replies p.src k) (hk : Ordered k)
    (heth : ethPixhawkRule p.src ∉ k.rules) (cloud : OutPacket → Option Route) :
    ∃ r, k.route cloud p = some r ∧ r.dev = wlan0 := by
  refine findSome?_of_sorted hk.sorted h.1 ?_ fun r hr hle x hx ↦ ?_
  · obtain ⟨r, hr, -⟩ := h.2.lookup (defaultNet_contains p.dst) hk.reply
    exact ⟨r, by rw [ruleRoute, if_pos (by simp [wlanReplyRule, selects])]; exact hr⟩
  · rw [ruleRoute] at hx
    split_ifs at hx with hsel
    obtain ⟨ip, rfl⟩ | ⟨ip, rfl⟩ := hk.first r hr hle
    · exact Routes.dev_of_lookup hx hk.reply
    · have hip : p.src = ip := by simpa [ethPixhawkRule, selects] using hsel
      exact absurd (hip ▸ hr) heth

/-- Packets to the flight controller go to the Ethernet port. -/
theorem Reaches.route {p : OutPacket} {net : Ipv4Network} {dev : Text} (h : Reaches p.src net k)
    (hk : Ordered k) (hdev : ∀ e ∈ k.ethPixhawk, e.2.dev = dev) (hnet : net.Contains p.dst)
    (cloud : OutPacket → Option Route) : ∃ r, k.route cloud p = some r ∧ r.dev = dev := by
  refine findSome?_of_sorted hk.sorted h.1 ?_ fun r hr hle x hx ↦ ?_
  · obtain ⟨r, hr, -⟩ := h.2.lookup hnet hdev
    exact ⟨r, by rw [ruleRoute, if_pos (by simp [ethPixhawkRule, selects])]; exact hr⟩
  · rw [ruleRoute] at hx
    split_ifs at hx
    obtain ⟨ip, rfl⟩ | ⟨ip, rfl⟩ := hk.first r hr (hle.trans (show 45 ≤ 50 by decide))
    · exact absurd hle (by simp [wlanReplyRule, ethPixhawkRule])
    · exact Routes.dev_of_lookup hx hdev

end PolicyKernel

open PolicyKernel in
/-- Once the commands of a cycle for a plane have succeeded, whatever fails in later ones:

* packets from the address that `wlan0` had leave through `wlan0`, unless the interface has gone
  down since or the Ethernet port has had the address;
* packets from the address of the Ethernet port to the network of the flight controller leave
  through the port, unless it has gone down since, if the settings have named no other interface. -/
theorem planes_apart {k : PolicyKernel} (hsorted : ByPriority PolicyRule.priority k.rules)
    (hfree : ∀ r ∈ k.rules, 50 < r.priority) (hreply : k.wlanReply = []) (heth : k.ethPixhawk = [])
    (before : List PlaneEvent) (env : PlaneEnv) (later : List PlaneEvent)
    (cloud : OutPacket → Option Route) (p : OutPacket) :
    (env.ifaceIp wlan0 = some p.src → env.getWifiGateway.isSome → env.wlanRouteOk = true →
      env.wlanRuleOk = true →
      (PlaneEnv.wlanRuleKey p.src <:+: env.ruleShowWlan →
        wlanReplyRule p.src ∈ (k.after before).rules) →
      .linkDown wlan0 ∉ later →
      (∀ env', .cycle env' ∈ before ++ .cycle env :: later →
        env'.ifaceIp env'.lan.interface ≠ some p.src) →
      ∃ r, (k.after (before ++ .cycle env :: later)).route cloud p = some r ∧ r.dev = wlan0) ∧
    (∀ net dev, env.ifaceIp dev = some p.src → env.parseDst env.lan.cidr = some net →
      net.Contains p.dst → env.ethRouteOk = true → env.ethRuleOk = true →
      (PlaneEnv.ethRuleKey p.src <:+: env.ruleShowEth →
        ethPixhawkRule p.src ∈ (k.after before).rules) →
      .linkDown dev ∉ later →
      (∀ env', .cycle env' ∈ before ++ .cycle env :: later → env'.lan.interface = dev) →
      ∃ r, (k.after (before ++ .cycle env :: later)).route cloud p = some r ∧ r.dev = dev) := by
  have hstart : Ordered k :=
    ⟨hsorted, fun r hr hle ↦ absurd hle (by have := hfree r hr; omega), by simp [hreply]⟩
  -- The cycle in the middle sets up the plane, and what comes later keeps it.
  have hsplit : k.after (before ++ .cycle env :: later) =
      (env.cycle (k.after before)).after later := by
    rw [PolicyKernel.after, List.foldl_append]
    rfl
  have hcycle : Ordered (env.cycle (k.after before)) := (hstart.after before).step (.cycle env)
  have hend : Ordered (k.after (before ++ .cycle env :: later)) := hstart.after _
  constructor
  · intro hip hgw hroute hrule hshown hdown hne
    obtain ⟨gw, hgw⟩ := Option.isSome_iff_exists.mp hgw
    -- The rule is there already, or the cycle adds it; the route is replaced in any case.
    have hreplies : Replies p.src (env.cycle (k.after before)) := by
      refine ⟨PlaneEnv.mem_rules_cycle.mpr ?_, ?_⟩
      · by_cases hkey : PlaneEnv.wlanRuleKey p.src <:+: env.ruleShowWlan
        · exact .inl (hshown hkey)
        · exact .inr (.inl ⟨p.src, gw, hip, hgw, hkey, hrule, rfl⟩)
      · rw [PlaneEnv.wlanReply_cycle, hip, hgw]
        exact ⟨_, RouteList.mem_replace.mpr (.inl ⟨hroute, rfl⟩), rfl⟩
    refine Replies.route ?_ hend (ethPixhawkRule_notMem_after ?_ hne) cloud
    · rw [hsplit]
      exact hreplies.after hcycle hdown
    · exact fun hmem ↦ absurd (hfree _ hmem) (by simp [ethPixhawkRule])
  · intro net dev hip hdst hnet hroute hrule hshown hdown hdev
    have hiface : env.lan.interface = dev := hdev env (by simp)
    have hreaches : Reaches p.src net (env.cycle (k.after before)) := by
      refine ⟨PlaneEnv.mem_rules_cycle.mpr ?_, ?_⟩
      · by_cases hkey : PlaneEnv.ethRuleKey p.src <:+: env.ruleShowEth
        · exact .inl (hshown hkey)
        · exact .inr (.inr (.inl ⟨p.src, hiface ▸ hip, hkey, hrule, rfl⟩))
      · rw [PlaneEnv.ethPixhawk_cycle, hiface, hip, hdst]
        exact ⟨_, RouteList.mem_replace.mpr (.inl ⟨hroute, rfl⟩), rfl⟩
    have hdevs (es : List PlaneEvent) (hes : ∀ env', .cycle env' ∈ es → env'.lan.interface = dev) :
        ∀ e ∈ (k.after es).ethPixhawk, e.2.dev = dev :=
      dev_ethPixhawk_after (by simp [heth]) hes
    refine Reaches.route ?_ hend (hdevs _ hdev) hnet cloud
    rw [hsplit]
    refine hreaches.after ?_ (fun env' henv' ↦ hdev env' (by simp [henv'])) hdown
    have hmid := hdevs (before ++ [.cycle env]) fun env' henv' ↦ hdev env' (by
      rw [List.mem_append, List.mem_singleton] at henv'
      exact List.mem_append.mpr (henv'.imp_right fun h ↦ List.mem_cons.mpr (.inl h)))
    rwa [PolicyKernel.after, List.foldl_concat, ← PolicyKernel.after] at hmid

/-- The kernel after a start, with the rule for marked packets. -/
def bootKernel : PolicyKernel where
  rules := [fwmarkRule, ⟨32766, .all, .main⟩]

/-- A cycle with the modem, the wireless network and the flight controller there. -/
def boardCycle : PlaneEnv where
  lan := ⟨⟨"eth0".toList, "10.41.10.1".toList, "10.41.10.2".toList, "24".toList⟩,
    "10.41.10.0/24".toList⟩
  ifaceIp dev := if dev = wlan0 then some "192.168.1.5".toList
    else if dev = "eth0".toList then some "10.41.10.1".toList else some "10.7.0.2".toList
  wifiVia := none
  parseDst t := List.lookup t [("10.41.10.0/24".toList, ⟨⟨10, 41, 10, 0⟩, 24⟩),
    ("8.8.8.8/32".toList, ⟨⟨8, 8, 8, 8⟩, 32⟩),
    ("45.117.171.237/32".toList, ⟨⟨45, 117, 171, 237⟩, 32⟩)]
  wlanRouteOk := true
  wlanRuleOk := true
  ethRouteOk := true
  ethRuleOk := true
  wifiOnly := false
  ping := ⟨"8.8.8.8".toList, true, true, true, true⟩
  tcp := ⟨"45.117.171.237".toList, true, true, true, true⟩
  tcpFallback := none
  deleteDefaultOk := true
  showDefaultOk := true
  addDefaultOk := true

/-- A marked reply leaves through `wlan0`, although the table of the uplink has a route for it, and
a marked packet to the flight controller through `eth0`. The modem goes down in between. -/
theorem planes_apart_board :
    (∃ r, (bootKernel.after ([] ++ .cycle boardCycle :: [.linkDown PbrEnv.wwan0])).route
      (fun _ ↦ some { dev := PbrEnv.wwan0 }) ⟨"192.168.1.5".toList, ⟨9, 9, 9, 9⟩, true⟩ = some r ∧
      r.dev = wlan0) ∧
    ∃ r, (bootKernel.after ([] ++ .cycle boardCycle :: [.linkDown PbrEnv.wwan0])).route
      (fun _ ↦ some { dev := PbrEnv.wwan0 }) ⟨"10.41.10.1".toList, ⟨10, 41, 10, 2⟩, true⟩ = some r ∧
      r.dev = "eth0".toList := by
  have hsorted : ByPriority PolicyRule.priority bootKernel.rules := by decide
  have hfree : ∀ r ∈ bootKernel.rules, 50 < r.priority := by decide
  have hcycle {env : PlaneEnv} (h : PlaneEvent.cycle env ∈
      ([] ++ .cycle boardCycle :: [.linkDown PbrEnv.wwan0] : List PlaneEvent)) :
      env = boardCycle := by
    simpa using h
  constructor
  · refine (planes_apart hsorted hfree rfl rfl [] boardCycle [.linkDown PbrEnv.wwan0] _
      ⟨"192.168.1.5".toList, ⟨9, 9, 9, 9⟩, true⟩).1 (by decide) (by decide) rfl rfl ?_ ?_ ?_
    · exact fun h ↦ absurd h (by decide)
    · simp [wlan0, PbrEnv.wwan0]
    · intro env henv
      rw [hcycle henv]
      decide
  · refine (planes_apart hsorted hfree rfl rfl [] boardCycle [.linkDown PbrEnv.wwan0] _
      ⟨"10.41.10.1".toList, ⟨10, 41, 10, 2⟩, true⟩).2 ⟨⟨10, 41, 10, 0⟩, 24⟩ "eth0".toList
      (by decide) (by decide) (by decide) rfl rfl ?_ ?_ ?_
    · exact fun h ↦ absurd h (by decide)
    · simp [PbrEnv.wwan0]
    · intro env henv
      rw [hcycle henv]
      rfl

end DroneBridge
