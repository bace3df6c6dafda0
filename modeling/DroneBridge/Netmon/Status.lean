import DroneBridge.Config.Edits
import DroneBridge.Lib.Ipv4
import DroneBridge.Lib.Machine
import DroneBridge.Netmon.Policy

/-!
# The status of the network, from the monitor to its readers

At the end of a cycle the monitor writes what it has measured to a file, as a JSON object. The
bridge reads the file to learn through which interface and address it reaches the cloud, and the web
page to show it. Each of them goes its own way through the object: the bridge looks at the block of
the uplink first and at those of the interfaces after that, the page at the interfaces only, with
words for their states that it makes itself.

Their answers agree, and say what the monitor has measured (`status_contract`). The file is written
in place, so a reader can find it empty. The page then takes a copy that is written after it
(`web_status_available`).
-/

namespace DroneBridge

/-! ## What the monitor writes -/

structure SignalMetrics where
  rssi : Option String := none
  quality : Option String := none
  rsrp : Option String := none
  signalDbm : Option ℤ := none

/-- What the modem's own status adds to the block of the modem, if it can be read. -/
structure ModemState where
  driver : String
  generation : ℤ
  /-- Empty when neither the modem nor the block has it. -/
  radioAccess : String

/-- What a cycle has measured when it calls `_save_status`. -/
structure StatusCycle where
  timestamp : ℤ
  /-- The interface of the default route in the table of the uplink. -/
  activeIface : Option String
  /-- The same, read again. -/
  pbrIface : Option String
  routeReason : RouteReason
  networkMode : String
  probeMode : ProbeMode
  wwanIp : Option Ipv4
  wlanIp : Option Ipv4
  wwanOk : Bool
  wlanOk : Bool
  signal : SignalMetrics := {}
  wifiDbm : Option ℤ := none
  modem : Option ModemState := none
  ethPlane : Body := []
  wlanAdmin : Body := []
  mainDefault : String := "wlan0"

namespace Json

def ofOption {α : Type*} (f : α → Json) : Option α → Json
  | some a => f a
  | none => .null

def ofIp (ip : Ipv4) : Json := .str (String.ofList ip.text)

end Json

namespace StatusCycle

variable (c : StatusCycle)

def build4gStatus : Body :=
  [("ip", .ofOption .ofIp c.wwanIp), ("online", .bool c.wwanOk)] ++
    if c.wwanIp.isNone then []
    else
      [("signal", .str (c.signal.rssi.getD "N/A")),
        ("signal_quality", .str (c.signal.quality.getD "UNKNOWN")),
        ("rsrp", .str (c.signal.rsrp.getD "N/A"))] ++
      c.signal.signalDbm.toList.map fun dbm ↦ ("signal_dbm", .num dbm)

def buildWifiStatus : Body :=
  [("ip", .ofOption .ofIp c.wlanIp), ("online", .bool c.wlanOk)] ++
    if c.wlanIp.isNone then [] else c.wifiDbm.toList.map fun dbm ↦ ("signal_dbm", .num dbm)

/-- The block of the modem has none of the three keys before. -/
def buildCellularStatus : Body :=
  c.build4gStatus ++
    match c.modem with
    | some m => [("driver", .str m.driver), ("generation", .num m.generation),
        ("radio_access", .str m.radioAccess)]
    | none => [("driver", .str "sim7600_qmi"), ("generation", .num 4), ("radio_access", .str "LTE")]

/-- The address of an interface and the result of its probe, for the two that can be an uplink. -/
def link : String → Option (Option Ipv4 × Bool)
  | "wwan0" => some (c.wwanIp, c.wwanOk)
  | "wlan0" => some (c.wlanIp, c.wlanOk)
  | _ => none

def probeText (iface : String) : String :=
  if iface = "wwan0" then c.probeMode.text
  else if iface = "wlan0" then (if c.wlanOk then "PING_OK" else "FAIL")
  else "NONE"

/-- The signal of the uplink, with where it comes from. -/
def signalOf (iface : String) : Option (ℤ × String) :=
  if iface = "wwan0" then
    (if c.wwanIp.isNone then none else c.signal.signalDbm).map (·, "4g")
  else if iface = "wlan0" then (if c.wlanIp.isNone then none else c.wifiDbm).map (·, "wifi")
  else none

/-- `cloud["ready"]` -/
def ready : Bool :=
  match c.activeIface with
  | none => false
  | some iface =>
    match c.link iface with
    | some (ip, online) => c.pbrIface = some iface && ip.isSome && online
    | none => false

def buildCloudUplinkStatus : Body :=
  let iface := c.activeIface.getD ""
  let link := (c.link iface).getD (none, false)
  let signal := c.signalOf iface
  [("interface", .ofOption .str c.activeIface),
    ("table", .num 100),
    ("ip", .ofOption .ofIp link.1),
    ("online", .bool link.2),
    ("probe", .str (c.probeText iface)),
    ("ready", .bool c.ready),
    ("signal_dbm", .ofOption (fun dbm : ℤ ↦ .num dbm) (signal.map Prod.fst)),
    ("signal_source", .ofOption .str (signal.map Prod.snd))]

def saveStatus : Body :=
  let signal := c.signalOf (c.activeIface.getD "")
  [("timestamp", .num c.timestamp),
    ("active_interface", .ofOption .str c.activeIface),
    ("route_reason", .str c.routeReason.text),
    ("network_mode", .str c.networkMode),
    ("wwan_probe_mode", .str c.probeMode.text),
    ("pbr_table", .num 100),
    ("cloud_ready", .bool c.ready),
    ("cloud_signal_dbm", .ofOption (fun dbm : ℤ ↦ .num dbm) (signal.map Prod.fst)),
    ("cloud_signal_source", .ofOption .str (signal.map Prod.snd)),
    ("planes", .obj [
      ("eth_pixhawk", .obj c.ethPlane),
      ("wlan_admin", .obj c.wlanAdmin),
      ("cloud_uplink", .obj c.buildCloudUplinkStatus)]),
    ("4g", .obj c.build4gStatus),
    ("cellular", .obj c.buildCellularStatus),
    ("wifi", .obj c.buildWifiStatus),
    ("main_default", .str c.mainDefault),
    ("ssh_route", .str (if c.mainDefault = "wwan0" then "wlan0 (admin reply table 101)"
      else "wlan0 (system default)"))]

end StatusCycle

/-! ## What the bridge reads -/

/-- The entry, if it is an object. -/
def objAt (m : Body) (key : String) : Option Body :=
  match m.lookup key with
  | some (.obj entries) => some entries
  | _ => none

/-- `CloudReady`, of the file if it can be read. -/
def cloudReady (raw : Option Body) : Bool := (raw.bind (boolAt · "cloud_ready")).getD false

def cloudUplinkBlock (raw : Body) : Option Body :=
  (objAt raw "planes").bind (objAt · "cloud_uplink")

/-- What `PhysicalEgress` returns. -/
structure Egress where
  iface : String
  ip : String
  ok : Bool
  deriving DecidableEq, Repr

/-- The first of the entries that holds an address. -/
def ifaceIP (block : Body) : String :=
  (["ip", "ip_address"].findSome? fun key ↦
    (stringAt block key).filter fun v ↦ v ≠ "" && v ≠ "null").getD ""

/-- The block of an interface that can be the uplink. -/
def blockKey : String → Option String
  | "wwan0" => some "4g"
  | "wlan0" => some "wifi"
  | _ => none

/-- The second way, by the interface that is active. -/
def activeEgress (raw : Body) : Egress :=
  let iface := (stringAt raw "active_interface").getD ""
  if iface = "" then ⟨"", "", false⟩
  else
    match (blockKey iface).bind (objAt raw ·) with
    | none => ⟨iface, "", false⟩
    | some block =>
      let ip := ifaceIP block
      ⟨iface, ip, ip ≠ "" && (boolAt block "online").getD false⟩

def physicalEgress : Option Body → Egress
  | none => ⟨"", "", false⟩
  | some raw =>
    let cu := (cloudUplinkBlock raw).getD []
    let iface := (stringAt cu "interface").getD ""
    let ip := (stringAt cu "ip").getD ""
    if (boolAt cu "ready").getD false && iface ≠ "" && ip ≠ "" then ⟨iface, ip, true⟩
    else activeEgress raw

/-! ## What the page shows -/

/-- A word for the state of an interface. -/
def normalizeIfaceBlock (block : Option Body) : Body :=
  match block with
  | none => [("status", .str "unavailable")]
  | some m =>
    let status (connected : Bool) : Body :=
      ("status", .str (if connected then "connected" else "unavailable")) :: m
    match (stringAt m "status").filter (· ≠ "") with
    | some _ => m
    | none => status ((boolAt m "online").getD (ifaceIP m ≠ ""))

def ifaceConnected (block : Body) : Bool :=
  match stringAt block "status" with
  | some status => status ∈ ["connected", "available", "degraded"]
  | none => (boolAt block "online").getD (ifaceIP block ≠ "")

/-- The interface and the address that the page names, if it names any. -/
def webEgress (raw : Body) : Option (String × String) :=
  let wifi := normalizeIfaceBlock (objAt raw "wifi")
  let fourG := normalizeIfaceBlock (objAt raw "4g")
  match (stringAt raw "active_interface").getD "" with
  | "wwan0" => some ("wwan0", ifaceIP fourG)
  | "wlan0" => some ("wlan0", ifaceIP wifi)
  | _ =>
    if ifaceConnected fourG then some ("wwan0", ifaceIP fourG)
    else if ifaceConnected wifi then some ("wlan0", ifaceIP wifi)
    else none

/-! ## The contract -/

/-- An address as the readers get it. -/
def ipText (ip : Option Ipv4) : String := (ip.map fun ip ↦ String.ofList ip.text).getD ""

namespace StatusCycle

variable {c : StatusCycle}

variable (c) in
/-- The uplink as it was measured: it is good when its interface has an address and has answered. -/
def egress : Egress :=
  match c.activeIface with
  | none => ⟨"", "", false⟩
  | some iface =>
    match c.link iface with
    | none => ⟨iface, "", false⟩
    | some (ip, online) => ⟨iface, ipText ip, ip.isSome && online⟩

variable (c) in
/-- What the page is to name: the uplink, and without one an interface that has answered. -/
def shown : Option (String × String) :=
  match c.activeIface.bind fun iface ↦ (c.link iface).map (iface, ·) with
  | some (iface, ip, _) => some (iface, ipText ip)
  | none =>
    if c.wwanOk then some ("wwan0", ipText c.wwanIp)
    else if c.wlanOk then some ("wlan0", ipText c.wlanIp)
    else none

theorem text_ne (ip : Ipv4) : String.ofList ip.text ≠ "" ∧ String.ofList ip.text ≠ "null" := by
  constructor
  · intro h
    exact ip.text_ne_nil (String.ofList_injective (h.trans String.ofList_nil.symm))
  · intro h
    have htext : ip.text = ['n', 'u', 'l', 'l'] := String.ofList_injective h
    have hmem : 'n' ∈ ip.text := by rw [htext]; exact List.mem_cons_self
    exact absurd (Ipv4.isDigit_or_dot_of_mem_text hmem) (by decide)

/-- A block as the monitor writes it: an address, a flag, and what says nothing of either. -/
structure IfaceBlock (ip : Option Ipv4) (online : Bool) (m : Body) : Prop where
  ip : m.lookup "ip" = some (.ofOption .ofIp ip)
  online : m.lookup "online" = some (.bool online)
  ipAddress : m.lookup "ip_address" = none
  status : m.lookup "status" = none

theorem ifaceBlock_4g : IfaceBlock c.wwanIp c.wwanOk c.build4gStatus := by
  rw [build4gStatus]
  cases c.wwanIp <;> cases c.signal.signalDbm <;>
    constructor <;> simp [List.lookup_cons]

theorem ifaceBlock_wifi : IfaceBlock c.wlanIp c.wlanOk c.buildWifiStatus := by
  rw [buildWifiStatus]
  cases c.wlanIp <;> cases c.wifiDbm <;>
    constructor <;> simp [List.lookup_cons]

namespace IfaceBlock

variable {ip : Option Ipv4} {online : Bool} {m : Body}

theorem ifaceIP_of_lookup (hfirst : m.lookup "ip" = some (.ofOption .ofIp ip))
    (hsecond : m.lookup "ip_address" = none) : ifaceIP m = ipText ip := by
  have hip : ((stringAt m "ip").filter fun v ↦ v ≠ "" && v ≠ "null") =
      ip.map fun ip ↦ String.ofList ip.text := by
    rw [stringAt, hfirst]
    cases ip with
    | none => rfl
    | some ip =>
      obtain ⟨hne, hnull⟩ := text_ne ip
      simp [Json.ofOption, Json.ofIp, Option.filter, hne, hnull]
  have hsecond : stringAt m "ip_address" = none := by rw [stringAt, hsecond]
  rw [ifaceIP, List.findSome?_cons, hip, ipText]
  cases ip with
  | some ip => rfl
  | none => simp [hsecond]

theorem ifaceIP_eq (h : IfaceBlock ip online m) : ifaceIP m = ipText ip :=
  ifaceIP_of_lookup h.ip h.ipAddress

theorem boolAt_online (h : IfaceBlock ip online m) : boolAt m "online" = some online := by
  rw [boolAt, h.online]

theorem normalize (h : IfaceBlock ip online m) : normalizeIfaceBlock (some m) =
    ("status", .str (if online then "connected" else "unavailable")) :: m := by
  have hstatus : stringAt m "status" = none := by rw [stringAt, h.status]
  simp [normalizeIfaceBlock, hstatus, h.boolAt_online]

/-- The page finds the same address under its own word for the state. -/
theorem ifaceIP_normalize (h : IfaceBlock ip online m) :
    ifaceIP (normalizeIfaceBlock (some m)) = ipText ip := by
  rw [h.normalize]
  exact ifaceIP_of_lookup (by simpa [List.lookup_cons] using h.ip)
    (by simpa [List.lookup_cons] using h.ipAddress)

theorem ifaceConnected_normalize (h : IfaceBlock ip online m) :
    ifaceConnected (normalizeIfaceBlock (some m)) = online := by
  rw [h.normalize]
  cases online <;> simp [ifaceConnected, stringAt]

end IfaceBlock

/-! ### The entries of the object -/

theorem objAt_4g : objAt c.saveStatus "4g" = some c.build4gStatus := by
  simp [saveStatus, objAt, List.lookup_cons]

theorem objAt_wifi : objAt c.saveStatus "wifi" = some c.buildWifiStatus := by
  simp [saveStatus, objAt, List.lookup_cons]

theorem cloudUplinkBlock_saveStatus :
    cloudUplinkBlock c.saveStatus = some c.buildCloudUplinkStatus := by
  simp [saveStatus, cloudUplinkBlock, objAt, List.lookup_cons]

theorem stringAt_active : stringAt c.saveStatus "active_interface" = c.activeIface := by
  cases h : c.activeIface <;> simp [saveStatus, stringAt, List.lookup_cons, h, Json.ofOption]

theorem link_cases {iface : String} {x : Option Ipv4 × Bool} (h : c.link iface = some x) :
    iface = "wwan0" ∧ x = (c.wwanIp, c.wwanOk) ∨ iface = "wlan0" ∧ x = (c.wlanIp, c.wlanOk) := by
  unfold link at h
  split at h
  · exact .inl ⟨rfl, (Option.some.inj h).symm⟩
  · exact .inr ⟨rfl, (Option.some.inj h).symm⟩
  · cases h

/-- The block that a reader finds for an interface that can be the uplink. -/
theorem exists_block {iface : String} {ip : Option Ipv4} {online : Bool}
    (h : c.link iface = some (ip, online)) :
    ∃ m, (blockKey iface).bind (objAt c.saveStatus ·) = some m ∧ IfaceBlock ip online m := by
  obtain ⟨rfl, hx⟩ | ⟨rfl, hx⟩ := link_cases h <;> cases hx
  · exact ⟨_, objAt_4g, ifaceBlock_4g⟩
  · exact ⟨_, objAt_wifi, ifaceBlock_wifi⟩

theorem blockKey_eq_none {iface : String} (h : c.link iface = none) : blockKey iface = none := by
  unfold link at h
  unfold blockKey
  split at h <;> simp_all

/-! ### The readers -/

theorem ready_iff : c.ready = true ↔ c.egress.ok = true ∧ c.pbrIface = c.activeIface := by
  rw [ready, egress]
  cases c.activeIface with
  | none => simp
  | some iface =>
    cases hlink : c.link iface with
    | none => simp [hlink]
    | some x => simp [hlink, and_assoc, and_comm]

theorem activeEgress_saveStatus : activeEgress c.saveStatus = c.egress := by
  rw [activeEgress, stringAt_active, egress]
  cases hactive : c.activeIface with
  | none => rfl
  | some iface =>
    simp only [Option.getD_some]
    cases hlink : c.link iface with
    | none =>
      simp only [blockKey_eq_none hlink, Option.bind_none]
      split_ifs with hempty
      · rw [hempty]
      · rfl
    | some x =>
      obtain ⟨ip, online⟩ := x
      obtain ⟨m, hm, hblock⟩ := exists_block hlink
      have hne : iface ≠ "" := by
        obtain ⟨rfl, -⟩ | ⟨rfl, -⟩ := link_cases hlink <;> decide
      simp only [if_neg hne, hm, hblock.ifaceIP_eq, hblock.boolAt_online, Option.getD_some]
      cases ip with
      | none => rfl
      | some ip => simp [ipText, (text_ne ip).1]

theorem physicalEgress_saveStatus : physicalEgress (some c.saveStatus) = c.egress := by
  rw [physicalEgress, cloudUplinkBlock_saveStatus, activeEgress_saveStatus]
  simp only [Option.getD_some]
  split_ifs with hready
  · -- the block of the uplink says what the interfaces say
    simp only [Bool.and_eq_true] at hready
    have hc : c.ready = true := by
      simpa [buildCloudUplinkStatus, boolAt, List.lookup_cons] using hready.1.1
    rw [ready] at hc
    rw [egress]
    cases hactive : c.activeIface with
    | none => simp [hactive] at hc
    | some iface =>
      cases hlink : c.link iface with
      | none => simp [hactive, hlink] at hc
      | some x =>
        obtain ⟨ip, online⟩ := x
        simp only [hactive, hlink, Bool.and_eq_true] at hc
        obtain ⟨ip, rfl⟩ := Option.isSome_iff_exists.mp hc.1.2
        simp [buildCloudUplinkStatus, stringAt, List.lookup_cons, hactive, hlink, Json.ofOption,
          Json.ofIp, ipText, hc.2]
  · rfl

theorem webEgress_saveStatus : webEgress c.saveStatus = c.shown := by
  have h4g := (ifaceBlock_4g (c := c)).ifaceIP_normalize
  have hwifi := (ifaceBlock_wifi (c := c)).ifaceIP_normalize
  have h4g' := (ifaceBlock_4g (c := c)).ifaceConnected_normalize
  have hwifi' := (ifaceBlock_wifi (c := c)).ifaceConnected_normalize
  rw [webEgress, stringAt_active, objAt_4g, objAt_wifi]
  simp only [h4g, hwifi, h4g', hwifi', shown]
  cases hactive : c.activeIface with
  | none => simp
  | some iface =>
    simp only [Option.getD_some, Option.bind_some]
    split
    · simp [link]
    · simp [link]
    next hwwan hwlan =>
      have hlink : c.link iface = none := by
        unfold link
        split <;> simp_all
      rw [hlink, Option.map_none]

end StatusCycle

/-- `CloudReady` says that the uplink is good and the table still had its interface,
`PhysicalEgress` gives the interface and the address as measured, and the page names the same, or an
interface that has answered when there is no uplink. -/
theorem status_contract (c : StatusCycle) :
    (cloudReady (some c.saveStatus) = true ↔ c.egress.ok = true ∧ c.pbrIface = c.activeIface) ∧
      physicalEgress (some c.saveStatus) = c.egress ∧ webEgress c.saveStatus = c.shown ∧
      (c.egress.ok = true → c.shown = some (c.egress.iface, c.egress.ip)) := by
  refine ⟨?_, StatusCycle.physicalEgress_saveStatus, StatusCycle.webEgress_saveStatus, ?_⟩
  · rw [← StatusCycle.ready_iff]
    simp [cloudReady, StatusCycle.saveStatus, boolAt, List.lookup_cons]
  · rw [StatusCycle.egress, StatusCycle.shown]
    cases c.activeIface with
    | none => simp
    | some iface => cases h : c.link iface <;> simp [h]

/-! ## The files -/

/-- Opening it for writing empties it, and what is in it until it is closed is no JSON. -/
inductive StatusFile
  | missing
  | torn
  | holds (c : StatusCycle)

def StatusFile.read : StatusFile → Option Body
  | .holds c => some c.saveStatus
  | _ => none

inductive StatusFilePoint
  | idle
  | runtimeOpen (c : StatusCycle)
  | runtimeDone (c : StatusCycle)
  | dataOpen (c : StatusCycle)

structure StatusFiles where
  runtime : StatusFile := .missing
  data : StatusFile := .missing
  point : StatusFilePoint := .idle
  /-- Ghost: the cycles whose status was written to the file. -/
  written : List StatusCycle := []

inductive StatusFileEvent
  | openRuntime (c : StatusCycle)
  | closeRuntime
  | openData
  | closeData
  /-- An exception, or the end of the process. -/
  | fail

namespace StatusFiles

def step (s : StatusFiles) : StatusFileEvent → Option StatusFiles
  | .openRuntime c =>
    match s.point with
    | .idle => some { s with runtime := .torn, point := .runtimeOpen c }
    | _ => none
  | .closeRuntime =>
    match s.point with
    | .runtimeOpen c =>
      some { s with runtime := .holds c, point := .runtimeDone c, written := s.written ++ [c] }
    | _ => none
  | .openData =>
    match s.point with
    | .runtimeDone c => some { s with data := .torn, point := .dataOpen c }
    | _ => none
  | .closeData =>
    match s.point with
    | .dataOpen c => some { s with data := .holds c, point := .idle }
    | _ => none
  | .fail => some { s with point := .idle }

/-- What `readNetworkStatusRaw` finds; `legacy` is the file of older versions. -/
def webRaw (s : StatusFiles) (legacy : Option Body) : Option Body :=
  s.runtime.read.or (s.data.read.or legacy)

/-- What the bridge finds. -/
def goRaw (s : StatusFiles) : Option Body := s.runtime.read

inductive Step (s : StatusFiles) : StatusFileEvent → StatusFiles → Prop
  | openRuntime {c : StatusCycle} (hpoint : s.point = .idle) :
    Step s (.openRuntime c) { s with runtime := .torn, point := .runtimeOpen c }
  | closeRuntime {c : StatusCycle} (hpoint : s.point = .runtimeOpen c) :
    Step s .closeRuntime
      { s with runtime := .holds c, point := .runtimeDone c, written := s.written ++ [c] }
  | openData {c : StatusCycle} (hpoint : s.point = .runtimeDone c) :
    Step s .openData { s with data := .torn, point := .dataOpen c }
  | closeData {c : StatusCycle} (hpoint : s.point = .dataOpen c) :
    Step s .closeData { s with data := .holds c, point := .idle }
  | fail : Step s .fail { s with point := .idle }

variable {s s' : StatusFiles} {e : StatusFileEvent}

theorem step_of_eq (h : s.step e = some s') : Step s e s' := by
  cases e with
  | openRuntime c =>
    rw [step] at h
    split at h <;> cases h
    exact .openRuntime ‹_›
  | closeRuntime =>
    rw [step] at h
    split at h <;> cases h
    exact .closeRuntime ‹_›
  | openData =>
    rw [step] at h
    split at h <;> cases h
    exact .openData ‹_›
  | closeData =>
    rw [step] at h
    split at h <;> cases h
    exact .closeData ‹_›
  | fail =>
    cases h
    exact .fail

/-- Where what was written is, as long as nothing but `fail` interrupts a save. -/
structure Kept (s : StatusFiles) : Prop where
  runtime : ∀ c, s.runtime = .holds c → s.written.getLast? = some c
  data : ∀ c, s.data = .holds c → c ∈ s.written
  saving : ∀ c, s.point = .runtimeDone c ∨ s.point = .dataOpen c → s.runtime = .holds c

theorem kept_init : Kept {} := ⟨by simp, by simp, by simp⟩

theorem Kept.step (hs : Kept s) (hstep : Step s e s') : Kept s' := by
  cases hstep with
  | openRuntime => exact ⟨by simp, hs.data, by simp⟩
  | closeRuntime =>
    refine ⟨?_, fun c hc ↦ List.mem_append_left _ (hs.data c hc), by simp⟩
    rintro _ ⟨⟩
    exact List.getLast?_concat
  | openData hpoint => exact ⟨hs.runtime, by simp, by simpa using hs.saving _ (.inl hpoint)⟩
  | closeData hpoint =>
    refine ⟨hs.runtime, ?_, by simp⟩
    rintro _ ⟨⟩
    exact List.mem_of_getLast? (hs.runtime _ (hs.saving _ (.inr hpoint)))
  | fail => exact ⟨hs.runtime, hs.data, by simp⟩

/-- The copy is there, unless it is being written. -/
def Copied (s : StatusFiles) : Prop :=
  (∃ c, s.data = .holds c) ∨ ∃ c, s.point = .dataOpen c

/-- No exception while the copy is being written. -/
def FailsEarly (s : StatusFiles) : StatusFileEvent → Prop
  | .fail => ∀ c, s.point ≠ .dataOpen c
  | _ => True

theorem Copied.step (hs : Copied s) (hfail : s.FailsEarly e) (hstep : Step s e s') :
    Copied s' := by
  cases hstep with
  | openRuntime hpoint | closeRuntime hpoint => exact .inl (hs.resolve_right (by simp [hpoint]))
  | openData => exact .inr ⟨_, rfl⟩
  | closeData => exact .inl ⟨_, rfl⟩
  | fail => exact .inl (hs.resolve_right fun ⟨c, hc⟩ ↦ hfail c hc)

/-- Without failures the copy is that of the last status, until the next one is in the file. -/
def Current (s : StatusFiles) : Prop :=
  ∀ c, s.data = .holds c → s.point = .idle ∨ (∃ c', s.point = .runtimeOpen c') →
    s.written.getLast? = some c

theorem Current.step (hs : Current s) (hk : Kept s) (he : e ≠ .fail) (hstep : Step s e s') :
    Current s' := by
  cases hstep with
  | openRuntime hpoint => exact fun c hc _ ↦ hs c hc (.inl hpoint)
  | closeRuntime | openData => simp [Current]
  | closeData hpoint =>
    rintro _ ⟨⟩ -
    exact hk.runtime _ (hk.saving _ (.inr hpoint))
  | fail => exact absurd rfl he

end StatusFiles

/-- The monitor, whose steps readers can come between. -/
def statusFileMachine : Machine StatusFiles StatusFileEvent := ⟨StatusFiles.step⟩

namespace StatusFiles

variable {s : StatusFiles} {es : List StatusFileEvent}

theorem kept_of_run (hrun : statusFileMachine.run {} es = some s) : Kept s :=
  Machine.invariant (fun _ _ _ hs h ↦ hs.step (step_of_eq h)) kept_init hrun

/-- From the first copy on there is one, or it is being written. -/
theorem copied_of_run (hdone : .closeData ∈ es) (hfail : statusFileMachine.Along FailsEarly {} es)
    (hrun : statusFileMachine.run {} es = some s) : Copied s := by
  obtain ⟨before, later, rfl⟩ := List.append_of_mem hdone
  obtain ⟨m, hm, hlater⟩ := Machine.run_append_eq_some.mp hrun
  obtain ⟨m', hm', hlater⟩ := Machine.run_cons_eq_some.mp hlater
  rw [Machine.along_append hm, Machine.along_cons hm'] at hfail
  have hstep : Step m .closeData m' := step_of_eq hm'
  have hcopied : Copied m' := by
    cases hstep with
    | closeData => exact .inl ⟨_, rfl⟩
  exact Machine.invariant_along (fun _ _ _ hs hP h ↦ hs.step hP (step_of_eq h)) hcopied
    hfail.2.2 hlater

theorem current_of_run (hnone : ∀ e ∈ es, e ≠ .fail) (hrun : statusFileMachine.run {} es = some s) :
    Current s := by
  have h := Machine.invariant_along (I := fun s ↦ Kept s ∧ Current s)
    (fun _ _ _ hs he h ↦ ⟨hs.1.step (step_of_eq h), hs.2.step hs.1 he (step_of_eq h)⟩)
    ⟨kept_init, by simp [Current]⟩ (Machine.along_of_forall hnone _) hrun
  exact h.2

/-- The file holds the last status that was written, or it is not to be read. -/
theorem goRaw_of_run (hrun : statusFileMachine.run {} es = some s) :
    s.goRaw = none ∨ ∃ c, s.written.getLast? = some c ∧ s.goRaw = some c.saveStatus := by
  rw [goRaw]
  match hruntime : s.runtime with
  | .holds c => exact .inr ⟨c, (kept_of_run hrun).runtime c hruntime, rfl⟩
  | .missing | .torn => exact .inl rfl

/-- While the file is not to be read the copy is there, and without failures it is the last one. -/
theorem data_of_run (hrun : statusFileMachine.run {} es = some s) (hraw : s.goRaw = none)
    (hdone : .closeData ∈ es) (hfail : statusFileMachine.Along FailsEarly {} es) :
    ∃ c ∈ s.written, s.data = .holds c ∧ ((∀ e ∈ es, e ≠ .fail) → s.written.getLast? = some c) := by
  have hk := kept_of_run hrun
  -- the file is not there, so the copy is not being written
  have hpoint (c : StatusCycle) : ¬ (s.point = .runtimeDone c ∨ s.point = .dataOpen c) := by
    intro h
    rw [goRaw, hk.saving c h] at hraw
    cases hraw
  obtain ⟨c, hc⟩ := (copied_of_run hdone hfail hrun).resolve_right fun ⟨c, hc⟩ ↦ hpoint c (.inr hc)
  refine ⟨c, hk.data c hc, hc, fun hnone ↦ current_of_run hnone hrun c hc ?_⟩
  match hp : s.point with
  | .idle => exact .inl rfl
  | .runtimeOpen c' => exact .inr ⟨c', rfl⟩
  | .runtimeDone c' => exact absurd (.inl hp) (hpoint c')
  | .dataOpen c' => exact absurd (.inr hp) (hpoint c')

end StatusFiles

open StatusFiles in
/-- The bridge finds nothing, or the uplink of the last status. Once a copy has been completed, and
if no exception comes while one is being written, the page always finds the status of some cycle,
and without exceptions that of the last one. -/
theorem web_status_available {s : StatusFiles} {es : List StatusFileEvent}
    (hrun : statusFileMachine.run {} es = some s) (legacy : Option Body) :
    (physicalEgress s.goRaw = ⟨"", "", false⟩ ∨
      ∃ c, s.written.getLast? = some c ∧ physicalEgress s.goRaw = c.egress) ∧
    (.closeData ∈ es → statusFileMachine.Along FailsEarly {} es →
      ∃ c ∈ s.written, (s.webRaw legacy).map webEgress = some c.shown ∧
        ((∀ e ∈ es, e ≠ .fail) → s.written.getLast? = some c)) := by
  obtain hraw | ⟨c, hlast, hraw⟩ := goRaw_of_run hrun
  · refine ⟨.inl (by rw [hraw]; rfl), fun hdone hfail ↦ ?_⟩
    obtain ⟨c, hmem, hc, hlast⟩ := data_of_run hrun hraw hdone hfail
    have hcopy : s.data.read = some c.saveStatus := by rw [hc]; rfl
    refine ⟨c, hmem, ?_, hlast⟩
    rw [webRaw, ← goRaw, hraw, Option.none_or, hcopy, Option.some_or, Option.map_some,
      StatusCycle.webEgress_saveStatus]
  · refine ⟨.inr ⟨c, hlast, ?_⟩, fun _ _ ↦ ⟨c, List.mem_of_getLast? hlast, ?_, fun _ ↦ hlast⟩⟩
    · rw [hraw, StatusCycle.physicalEgress_saveStatus]
    · rw [webRaw, ← goRaw, hraw, Option.some_or, Option.map_some, StatusCycle.webEgress_saveStatus]

/-- A cycle with a good uplink through the modem. -/
def modemCycle : StatusCycle where
  timestamp := 1000
  activeIface := some "wwan0"
  pbrIface := some "wwan0"
  routeReason := .probeOk
  networkMode := "prefer_4g"
  probeMode := .pingOk
  wwanIp := some ⟨10, 7, 0, 2⟩
  wlanIp := none
  wwanOk := true
  wlanOk := false

/-- The second save has just opened the file: the bridge finds nothing, and the page the copy. -/
theorem web_status_available_saving : ∃ s, statusFileMachine.run {}
      [.openRuntime modemCycle, .closeRuntime, .openData, .closeData, .openRuntime modemCycle] =
        some s ∧
      s.goRaw = none ∧ ∃ c ∈ s.written, (s.webRaw none).map webEgress = some c.shown := by
  have hrun : statusFileMachine.run {}
      [.openRuntime modemCycle, .closeRuntime, .openData, .closeData, .openRuntime modemCycle] =
        some ⟨.torn, .holds modemCycle, .runtimeOpen modemCycle, [modemCycle]⟩ := rfl
  obtain ⟨c, hc, hweb, -⟩ := (web_status_available hrun none).2 (by simp)
    (by simp [Machine.Along, StatusFiles.FailsEarly])
  exact ⟨_, hrun, rfl, c, hc, hweb⟩

end DroneBridge
