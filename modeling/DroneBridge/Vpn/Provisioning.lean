import DroneBridge.Auth.Layout
import DroneBridge.Auth.Request
import DroneBridge.Lib.Ipv4
import DroneBridge.Lib.JsonText
import DroneBridge.Lib.Machine

/-!
# Provisioning the tunnel, over restarts

After it has authenticated, a process asks the router for a tunnel: it sends the public half of a
key pair and is given an address, the router's key and an endpoint. `SaveProvisionedConfig` writes
all of it to `vpn_config.json`, with the private half, and the tunnel is started from what is in
memory or else from that file. The router knows a drone by the key of its last request, so a tunnel
works only as long as its private key belongs to that one.

What could bring the two apart is a key pair that is made, sent and then forgotten: a new pair is
kept nowhere until the answer to its request is saved. The process may end at any point, in the
middle of the write too, and the answer may get lost. `tunnel_agrees` says that a tunnel which is up
nevertheless has the key of the last request, and that all it was configured with comes from one
answer of the router. It rests on two habits of the source: the pair in the file is used again
whenever the file can be read, and there is one request for each process.
-/

namespace DroneBridge

/-! ## The formats -/

/-- `VPNConfig` of the source with all its fields, except the time, which nothing reads. -/
structure ProvisionedConfig where
  assignedIP : List UInt8
  privateKey : List UInt8
  publicKey : List UInt8
  serverPubKey : List UInt8
  serverEndpoint : List UInt8
  deriving DecidableEq, Repr

/-- Every string of a configuration changed in the same way. -/
def ProvisionedConfig.map (f : List UInt8 → List UInt8) (c : ProvisionedConfig) :
    ProvisionedConfig :=
  ⟨f c.assignedIP, f c.privateKey, f c.publicKey, f c.serverPubKey, f c.serverEndpoint⟩

/-- An address without its prefix length. -/
def bareIP (ip : List UInt8) : List UInt8 := ip.takeWhile (· ≠ '/'.toUInt8)

/-- The libraries for keys, addresses, endpoints and JSON. `encoding/json` replaces the bytes of a
string that are not UTF-8, so that `text` of a string comes back. The zone of an IPv6 address is
left out. -/
structure VpnFormats (κ α ρ : Type) where
  keyString : κ → List UInt8
  parseKey : List UInt8 → Option κ
  publicKey : κ → κ
  parseAddr : List UInt8 → Option α
  /-- What the device makes of the endpoint it is configured with. -/
  parseEndpoint : List UInt8 → Option ρ
  marshal : ProvisionedConfig → List UInt8
  unmarshal : List UInt8 → Option ProvisionedConfig
  text : List UInt8 → List UInt8
  parseKey_keyString : ∀ k, parseKey (keyString k) = some k
  parseKey_nil : parseKey [] = none
  text_keyString : ∀ k, text (keyString k) = keyString k
  parseKey_text : ∀ b, parseKey (text b) = parseKey b
  parseAddr_text : ∀ b, parseAddr (bareIP (text b)) = parseAddr (bareIP b)
  parseEndpoint_text : ∀ b, parseEndpoint (text b) = parseEndpoint b
  unmarshal_marshal : ∀ c, unmarshal (marshal c) = some (c.map text)
  /-- A document without its end is none. -/
  unmarshal_cut : ∀ c n, n < (marshal c).length → unmarshal ((marshal c).take n) = none

/-- What the userspace device is configured with. -/
structure WgTunnel (κ α ρ : Type) where
  privateKey : κ
  peerKey : κ
  address : α
  endpoint : ρ
  deriving DecidableEq, Repr

/-- A request to the router and what was read in reply. -/
structure ProvisionExchange where
  request : VPNProvisionRequest
  reply : Option (List UInt8)
  deriving DecidableEq, Repr

/-- The success message in what was read. -/
def provisionAck (data : List UInt8) : Option VPNProvisionAck :=
  (parseVPNProvisionAck data).value?.filter (·.result = resultSuccess)

def ProvisionExchange.ack (x : ProvisionExchange) : Option VPNProvisionAck :=
  x.reply.bind provisionAck

namespace VpnFormats

variable {κ α ρ : Type} (F : VpnFormats κ α ρ)

def loadConfig (file : Option (List UInt8)) : Option ProvisionedConfig := file.bind F.unmarshal

/-- The strings of a key pair: the private key, and the public one. -/
def generateKeyPair (k : κ) : List UInt8 × List UInt8 :=
  (F.keyString k, F.keyString (F.publicKey k))

/-- `generated` is the key that is made when one is needed, unless that fails. -/
def loadOrGenerateKeyPair (file : Option (List UInt8)) (generated : Option κ) :
    Option (List UInt8 × List UInt8) :=
  match F.loadConfig file with
  | some cfg =>
    if cfg.privateKey ≠ [] then some (cfg.privateKey, cfg.publicKey)
    else generated.map F.generateKeyPair
  | none => generated.map F.generateKeyPair

/-- `Start` up to the device: the tunnel that a configuration describes. -/
def tunnelOf (cfg : ProvisionedConfig) : Option (WgTunnel κ α ρ) := do
  let address ← F.parseAddr (bareIP cfg.assignedIP)
  let privateKey ← F.parseKey cfg.privateKey
  let peerKey ← F.parseKey cfg.serverPubKey
  let endpoint ← F.parseEndpoint cfg.serverEndpoint
  return { privateKey, peerKey, address, endpoint }

end VpnFormats

/-- What `SaveProvisionedConfig` is called with. -/
def provisionedBy (pair : List UInt8 × List UInt8) (ack : VPNProvisionAck) : ProvisionedConfig where
  assignedIP := ack.assignedIP
  privateKey := pair.1
  publicKey := pair.2
  serverPubKey := ack.serverPublicKey
  serverEndpoint := ack.serverEndpoint

/-! ## The device -/

/-- Where a process is in `startVPNAfterAuth`. -/
inductive VpnPoint
  /-- There is no process. -/
  | down
  | authenticating
  /-- In `RequestVPNProvisioning`, with the packet written. -/
  | awaiting (pair : List UInt8 × List UInt8)
  /-- In `os.WriteFile`. -/
  | saving (cfg : ProvisionedConfig)
  | starting
  | returned
  deriving DecidableEq, Repr

/-- A write that does not end well leaves the old file if the file could not be opened, and
otherwise the first bytes of the new one. -/
inductive ConfigWrite
  | done
  | failed (left : Option ℕ)
  deriving DecidableEq, Repr

/-- A drone over the life of many processes. -/
structure VpnDevice (κ α ρ : Type) where
  /-- `vpn_config.json`. -/
  file : Option (List UInt8)
  config : Option ProvisionedConfig
  tunnel : Option (WgTunnel κ α ρ)
  point : VpnPoint
  /-- The requests of all processes so far, the last one first. -/
  log : List ProvisionExchange
  deriving DecidableEq, Repr

inductive VpnDeviceEvent (κ : Type)
  | boot
  /-- There is no session or no connection, and no request is sent. -/
  | skip
  | request (droneUUID sessionToken : List UInt8) (generated : Option κ)
  /-- Nothing is read if the packet cannot be written or the read fails. -/
  | reply (data : Option (List UInt8))
  | write (outcome : ConfigWrite)
  /-- `up` says whether the device comes up. -/
  | start (up : Bool)
  /-- The process ends; `left` is for one that ends in the middle of the write. -/
  | crash (left : Option ℕ)
  /-- The file is deleted by hand. -/
  | removeFile
  deriving DecidableEq, Repr

/-- The last request is answered. -/
def answerLast (data : Option (List UInt8)) : List ProvisionExchange → List ProvisionExchange
  | [] => []
  | x :: log => { x with reply := data } :: log

namespace VpnDevice

variable {κ α ρ : Type} (F : VpnFormats κ α ρ)

/-- A drone on which no process has run yet. -/
def init (file : Option (List UInt8)) : VpnDevice κ α ρ := ⟨file, none, none, .down, []⟩

variable (s : VpnDevice κ α ρ)

/-- The file after a write of `cfg` that did not end well. -/
def cutFile (cfg : ProvisionedConfig) : Option ℕ → Option (List UInt8)
  | none => s.file
  | some n => some ((F.marshal cfg).take n)

/-- `RequestVPNProvisioning` up to the packet. -/
def request (droneUUID sessionToken : List UInt8) (generated : Option κ) : VpnDevice κ α ρ :=
  match F.loadOrGenerateKeyPair s.file generated with
  | none => { s with point := .starting }
  | some pair =>
    { s with
      point := .awaiting pair
      log := ⟨⟨droneUUID, sessionToken, pair.2⟩, none⟩ :: s.log }

/-- The rest of `RequestVPNProvisioning` up to `SaveProvisionedConfig`. -/
def reply (pair : List UInt8 × List UInt8) (data : Option (List UInt8)) : VpnDevice κ α ρ :=
  { s with
    log := answerLast data s.log
    point :=
      match data.bind provisionAck with
      | some ack => .saving (provisionedBy pair ack)
      | none => .starting }

def saveProvisionedConfig (cfg : ProvisionedConfig) : ConfigWrite → VpnDevice κ α ρ
  | .done => { s with file := some (F.marshal cfg), config := some cfg, point := .starting }
  | .failed left => { s with file := s.cutFile F cfg left, point := .starting }

/-- `Start`. Before it, a tunnel that is up is stopped. -/
def start (up : Bool) : VpnDevice κ α ρ :=
  match s.config.or (F.loadConfig s.file) with
  | none => { s with tunnel := none, point := .returned }
  | some cfg =>
    match F.tunnelOf cfg with
    | none => { s with tunnel := none, point := .returned }
    | some t =>
      if up then { s with tunnel := some t, config := some cfg, point := .returned }
      else { s with tunnel := none, point := .returned }

/-- The memory of a process goes with it. -/
def crash (left : Option ℕ) : VpnDevice κ α ρ :=
  { s with
    config := none
    tunnel := none
    point := .down
    file :=
      match s.point with
      | .saving cfg => s.cutFile F cfg left
      | _ => s.file }

def step : VpnDeviceEvent κ → Option (VpnDevice κ α ρ)
  | .boot =>
    if s.point = .down then some { s with config := none, tunnel := none, point := .authenticating }
    else none
  | .skip => if s.point = .authenticating then some { s with point := .starting } else none
  | .request droneUUID sessionToken generated =>
    if s.point = .authenticating then some (s.request F droneUUID sessionToken generated) else none
  | .reply data =>
    match s.point with
    | .awaiting pair => some (s.reply pair data)
    | _ => none
  | .write outcome =>
    match s.point with
    | .saving cfg => some (s.saveProvisionedConfig F cfg outcome)
    | _ => none
  | .start up => if s.point = .starting then some (s.start F up) else none
  | .crash left => if s.point = .down then none else some (s.crash F left)
  | .removeFile => some { s with file := none }

end VpnDevice

def vpnMachine {κ α ρ : Type} (F : VpnFormats κ α ρ) :
    Machine (VpnDevice κ α ρ) (VpnDeviceEvent κ) :=
  ⟨VpnDevice.step F⟩

/-! ## Configurations that the router knows -/

section

variable {κ α ρ : Type} {F : VpnFormats κ α ρ}

theorem VpnFormats.keyString_ne_nil (k : κ) : F.keyString k ≠ [] := by
  intro hnil
  have hparse := F.parseKey_keyString k
  rw [hnil, F.parseKey_nil] at hparse
  cases hparse

theorem VpnFormats.tunnelOf_text (cfg : ProvisionedConfig) :
    F.tunnelOf (cfg.map F.text) = F.tunnelOf cfg := by
  simp only [tunnelOf, ProvisionedConfig.map, F.parseAddr_text, F.parseKey_text,
    F.parseEndpoint_text]

/-- A pair whose halves belong together. -/
def VpnFormats.IsPair (F : VpnFormats κ α ρ) (pair : List UInt8 × List UInt8) : Prop :=
  ∃ k, pair = F.generateKeyPair k

/-- The requests after the answer `ack` had the key that it was given for. -/
def LastAnswer (key : List UInt8) (ack : VPNProvisionAck) (log : List ProvisionExchange) : Prop :=
  ∃ after x before, log = after ++ x :: before ∧ x.ack = some ack ∧
    x.request.wgPublicKey = key ∧ ∀ y ∈ after, y.request.wgPublicKey = key

theorem LastAnswer.cons {key : List UInt8} {ack : VPNProvisionAck} {log : List ProvisionExchange}
    (h : LastAnswer key ack log) {y : ProvisionExchange} (hy : y.request.wgPublicKey = key) :
    LastAnswer key ack (y :: log) := by
  obtain ⟨after, x, before, rfl, hack, hkey, hafter⟩ := h
  exact ⟨y :: after, x, before, rfl, hack, hkey, List.forall_mem_cons.mpr ⟨hy, hafter⟩⟩

theorem LastAnswer.head {key : List UInt8} {ack : VPNProvisionAck} {log : List ProvisionExchange}
    (h : LastAnswer key ack log) : log.head?.map (·.request.wgPublicKey) = some key := by
  obtain ⟨after, x, before, rfl, -, hkey, hafter⟩ := h
  cases after with
  | nil => exact congrArg some hkey
  | cons y after => exact congrArg some (hafter y List.mem_cons_self)

/-- Answering a request without an answer leaves the older answers. -/
theorem LastAnswer.answerLast {key : List UInt8} {ack : VPNProvisionAck} {y : ProvisionExchange}
    {log : List ProvisionExchange} (h : LastAnswer key ack (y :: log)) (hy : y.reply = none)
    (data : Option (List UInt8)) : LastAnswer key ack (answerLast data (y :: log)) := by
  obtain ⟨after, x, before, heq, hack, hkey, hafter⟩ := h
  cases after with
  | nil =>
    obtain ⟨rfl, rfl⟩ := List.cons.inj heq
    rw [ProvisionExchange.ack, hy] at hack
    cases hack
  | cons z after =>
    obtain ⟨rfl, rfl⟩ := List.cons.inj heq
    obtain ⟨hz, hafter⟩ := List.forall_mem_cons.mp hafter
    exact ⟨{ y with reply := data } :: after, x, before, rfl, hack, hkey,
      List.forall_mem_cons.mpr ⟨hz, hafter⟩⟩

/-- A configuration of one answer, for a pair whose key the router still has. -/
def VpnFormats.Backed (F : VpnFormats κ α ρ) (log : List ProvisionExchange)
    (cfg : ProvisionedConfig) : Prop :=
  ∃ pair ack, F.IsPair pair ∧ LastAnswer pair.2 ack log ∧
    (cfg = provisionedBy pair ack ∨ cfg = (provisionedBy pair ack).map F.text)

namespace VpnFormats.Backed

variable {log : List ProvisionExchange} {cfg : ProvisionedConfig}

theorem isPair (h : F.Backed log cfg) : F.IsPair (cfg.privateKey, cfg.publicKey) := by
  obtain ⟨_, ack, ⟨k, rfl⟩, -, rfl | rfl⟩ := h
  · exact ⟨k, rfl⟩
  · refine ⟨k, ?_⟩
    simp only [provisionedBy, ProvisionedConfig.map, generateKeyPair, F.text_keyString]

theorem mono {log' : List ProvisionExchange} (h : F.Backed log cfg)
    (hlog : ∀ key ack, key = cfg.publicKey → LastAnswer key ack log → LastAnswer key ack log') :
    F.Backed log' cfg := by
  obtain ⟨pair, ack, hpair, hlast, hcfg⟩ := h
  refine ⟨pair, ack, hpair, hlog _ _ ?_ hlast, hcfg⟩
  obtain ⟨k, rfl⟩ := hpair
  obtain rfl | rfl := hcfg
  · rfl
  · simp only [provisionedBy, ProvisionedConfig.map, generateKeyPair, F.text_keyString]

end VpnFormats.Backed

/-! ## The invariant -/

namespace VpnDevice

/-- What a process has at each point. Before `Start` there is a configuration in memory only once it
was saved. -/
def AtPoint (F : VpnFormats κ α ρ) (s : VpnDevice κ α ρ) : Prop :=
  match s.point with
  | .awaiting pair =>
    s.config = none ∧ F.IsPair pair ∧
      ∃ y log, s.log = y :: log ∧ y.request.wgPublicKey = pair.2 ∧ y.reply = none
  | .saving cfg =>
    s.config = none ∧ ∃ pair ack, F.IsPair pair ∧ cfg = provisionedBy pair ack ∧
      LastAnswer pair.2 ack s.log
  | .down | .authenticating => s.config = none
  | .starting | .returned => True

structure Inv (F : VpnFormats κ α ρ) (s : VpnDevice κ α ρ) : Prop where
  file : ∀ cfg, F.loadConfig s.file = some cfg → F.Backed s.log cfg
  config : ∀ cfg, s.config = some cfg → F.Backed s.log cfg
  tunnel : ∀ t, s.tunnel = some t → ∃ cfg, s.config = some cfg ∧ F.tunnelOf cfg = some t
  atPoint : s.AtPoint F

theorem inv_init {file : Option (List UInt8)} (hfile : F.loadConfig file = none) :
    (init file : VpnDevice κ α ρ).Inv F where
  file := fun _ hcfg ↦ absurd (hfile.symm.trans hcfg) nofun
  config := nofun
  tunnel := nofun
  atPoint := rfl

variable {s : VpnDevice κ α ρ}

/-- After a write that did not end well the file is the old one, none, or the new one. -/
theorem loadConfig_cutFile {cfg cfg' : ProvisionedConfig} {left : Option ℕ}
    (h : F.loadConfig (s.cutFile F cfg left) = some cfg') :
    F.loadConfig s.file = some cfg' ∨ cfg' = cfg.map F.text := by
  cases left with
  | none => exact .inl h
  | some n =>
    have hparse : F.unmarshal ((F.marshal cfg).take n) = some cfg' := h
    by_cases hn : n < (F.marshal cfg).length
    · rw [F.unmarshal_cut cfg n hn] at hparse
      cases hparse
    · rw [List.take_of_length_le (not_lt.mp hn), F.unmarshal_marshal, Option.some.injEq] at hparse
      exact .inr hparse.symm

theorem Inv.backed_of_saving (h : s.Inv F) {cfg : ProvisionedConfig}
    (hpoint : s.point = .saving cfg) :
    F.Backed s.log cfg ∧ F.Backed s.log (cfg.map F.text) := by
  have hat := h.atPoint
  rw [AtPoint, hpoint] at hat
  obtain ⟨-, pair, ack, hpair, rfl, hlast⟩ := hat
  exact ⟨⟨pair, ack, hpair, hlast, .inl rfl⟩, ⟨pair, ack, hpair, hlast, .inr rfl⟩⟩

theorem Inv.backed_cutFile (h : s.Inv F) {cfg : ProvisionedConfig} (hpoint : s.point = .saving cfg)
    {left : Option ℕ} {cfg' : ProvisionedConfig}
    (hcfg' : F.loadConfig (s.cutFile F cfg left) = some cfg') : F.Backed s.log cfg' := by
  obtain hold | rfl := loadConfig_cutFile hcfg'
  · exact h.file cfg' hold
  · exact (h.backed_of_saving hpoint).2

theorem Inv.tunnel_eq_none (h : s.Inv F) (hconfig : s.config = none) : s.tunnel = none := by
  cases htunnel : s.tunnel with
  | none => rfl
  | some t =>
    obtain ⟨cfg, hcfg, -⟩ := h.tunnel t htunnel
    rw [hconfig] at hcfg
    cases hcfg

/-! ## The steps -/

/-- The pair of a request is a pair, and that of the file if there is one. -/
theorem Inv.loadOrGenerateKeyPair (h : s.Inv F) {generated : Option κ}
    {pair : List UInt8 × List UInt8}
    (hpair : F.loadOrGenerateKeyPair s.file generated = some pair) :
    F.IsPair pair ∧ ∀ cfg, F.loadConfig s.file = some cfg → pair.2 = cfg.publicKey := by
  have hgenerated : ∀ p, generated.map F.generateKeyPair = some p → F.IsPair p := by
    intro p hp
    obtain ⟨k, -, rfl⟩ := Option.map_eq_some_iff.mp hp
    exact ⟨k, rfl⟩
  rw [VpnFormats.loadOrGenerateKeyPair] at hpair
  cases hload : F.loadConfig s.file with
  | none =>
    rw [hload] at hpair
    exact ⟨hgenerated pair hpair, nofun⟩
  | some cfg =>
    have hown := (h.file cfg hload).isPair
    obtain ⟨k, hk⟩ := hown
    have hne : cfg.privateKey ≠ [] := by
      rw [show cfg.privateKey = F.keyString k from congrArg Prod.fst hk]
      exact F.keyString_ne_nil k
    rw [hload] at hpair
    simp only [if_pos hne, Option.some.injEq] at hpair
    subst hpair
    refine ⟨⟨k, hk⟩, ?_⟩
    rintro _ ⟨⟩
    rfl

theorem Inv.request (h : s.Inv F) (hpoint : s.point = .authenticating)
    (droneUUID sessionToken : List UInt8) (generated : Option κ) :
    (s.request F droneUUID sessionToken generated).Inv F := by
  have hat := h.atPoint
  rw [AtPoint, hpoint] at hat
  have hconfig : s.config = none := hat
  rw [VpnDevice.request]
  cases hpair : F.loadOrGenerateKeyPair s.file generated with
  | none => exact ⟨h.file, h.config, h.tunnel, trivial⟩
  | some pair =>
    obtain ⟨hisPair, hsame⟩ := h.loadOrGenerateKeyPair hpair
    refine ⟨?_, ?_, h.tunnel, hconfig, hisPair, _, _, rfl, rfl, rfl⟩
    · intro cfg hcfg
      refine (h.file cfg hcfg).mono fun key ack hkey hlast ↦ hlast.cons ?_
      rw [hkey]
      exact hsame cfg hcfg
    · intro cfg hcfg
      rw [hconfig] at hcfg
      cases hcfg

theorem Inv.reply (h : s.Inv F) {pair : List UInt8 × List UInt8} (hpoint : s.point = .awaiting pair)
    (data : Option (List UInt8)) : (s.reply pair data).Inv F := by
  have hat := h.atPoint
  rw [AtPoint, hpoint] at hat
  obtain ⟨hconfig, hpair, y, log, hlog, hkey, hreply⟩ := hat
  have hanswered : answerLast data s.log = { y with reply := data } :: log := by
    rw [hlog]
    rfl
  refine ⟨?_, ?_, h.tunnel, ?_⟩
  · intro cfg hcfg
    refine (h.file cfg hcfg).mono fun key ack _ hlast ↦ ?_
    rw [hlog] at hlast
    have hkept := hlast.answerLast hreply data
    rwa [← hlog] at hkept
  · intro cfg hcfg
    have hnone : s.config = some cfg := hcfg
    rw [hconfig] at hnone
    cases hnone
  · rw [AtPoint, VpnDevice.reply]
    cases hack : data.bind provisionAck with
    | none => trivial
    | some ack =>
      refine ⟨hconfig, pair, ack, hpair, rfl, ?_⟩
      -- The answer is the newest one, so that no request came after it.
      exact ⟨[], { y with reply := data }, log, hanswered, hack, hkey,
        fun z hz ↦ absurd hz List.not_mem_nil⟩

theorem Inv.saveProvisionedConfig (h : s.Inv F) {cfg : ProvisionedConfig}
    (hpoint : s.point = .saving cfg) (outcome : ConfigWrite) :
    (s.saveProvisionedConfig F cfg outcome).Inv F := by
  obtain ⟨hcfg, htext⟩ := h.backed_of_saving hpoint
  have hat := h.atPoint
  rw [AtPoint, hpoint] at hat
  cases outcome with
  | done =>
    refine ⟨?_, ?_, ?_, trivial⟩
    · intro cfg' hcfg'
      have hparse : F.unmarshal (F.marshal cfg) = some cfg' := hcfg'
      rw [F.unmarshal_marshal, Option.some.injEq] at hparse
      exact hparse ▸ htext
    · rintro _ ⟨⟩
      exact hcfg
    · intro t ht
      have hnone : s.tunnel = some t := ht
      rw [h.tunnel_eq_none hat.1] at hnone
      cases hnone
  | failed left => exact ⟨fun _ hcfg' ↦ h.backed_cutFile hpoint hcfg', h.config, h.tunnel, trivial⟩

theorem Inv.start (h : s.Inv F) (up : Bool) : (s.start F up).Inv F := by
  have hstopped : ({ s with tunnel := none, point := .returned } : VpnDevice κ α ρ).Inv F :=
    ⟨h.file, h.config, nofun, trivial⟩
  have hbacked : ∀ cfg, s.config.or (F.loadConfig s.file) = some cfg → F.Backed s.log cfg := by
    intro cfg hcfg
    obtain hmemory | ⟨-, hfile⟩ := Option.or_eq_some_iff.mp hcfg
    · exact h.config cfg hmemory
    · exact h.file cfg hfile
  rw [VpnDevice.start]
  cases hcfg : s.config.or (F.loadConfig s.file) with
  | none => exact hstopped
  | some cfg =>
    dsimp only
    cases ht : F.tunnelOf cfg with
    | none => exact hstopped
    | some t =>
      cases up with
      | false => exact hstopped
      | true =>
        refine ⟨h.file, ?_, ?_, trivial⟩
        · rintro _ ⟨⟩
          exact hbacked cfg hcfg
        · rintro _ ⟨⟩
          exact ⟨cfg, rfl, ht⟩

theorem Inv.crash (h : s.Inv F) (left : Option ℕ) : (s.crash F left).Inv F := by
  refine ⟨?_, nofun, nofun, rfl⟩
  intro cfg' hcfg'
  rw [VpnDevice.crash] at hcfg'
  dsimp only at hcfg'
  split at hcfg'
  next cfg hpoint => exact h.backed_cutFile hpoint hcfg'
  next => exact h.file cfg' hcfg'

/-- **The step.** Every event keeps what the file, the memory and the tunnel have to do with the
router's answers. -/
theorem Inv.step (h : s.Inv F) {e : VpnDeviceEvent κ} {s' : VpnDevice κ α ρ}
    (hstep : (vpnMachine F).step s e = some s') : s'.Inv F := by
  change VpnDevice.step F s e = some s' at hstep
  cases e with
  | boot =>
    obtain ⟨-, ⟨⟩⟩ := Option.ite_none_right_eq_some.mp hstep
    -- A new process knows only the file.
    exact ⟨h.file, nofun, nofun, rfl⟩
  | skip =>
    obtain ⟨-, ⟨⟩⟩ := Option.ite_none_right_eq_some.mp hstep
    exact ⟨h.file, h.config, h.tunnel, trivial⟩
  | request droneUUID sessionToken generated =>
    obtain ⟨hpoint, ⟨⟩⟩ := Option.ite_none_right_eq_some.mp hstep
    exact h.request hpoint droneUUID sessionToken generated
  | reply data =>
    rw [VpnDevice.step] at hstep
    split at hstep
    next pair hpoint =>
      cases hstep
      exact h.reply hpoint data
    next => cases hstep
  | write outcome =>
    rw [VpnDevice.step] at hstep
    split at hstep
    next cfg hpoint =>
      cases hstep
      exact h.saveProvisionedConfig hpoint outcome
    next => cases hstep
  | start up =>
    obtain ⟨-, ⟨⟩⟩ := Option.ite_none_right_eq_some.mp hstep
    exact h.start up
  | crash left =>
    obtain ⟨-, ⟨⟩⟩ := Option.ite_none_left_eq_some.mp hstep
    exact h.crash left
  | removeFile =>
    cases hstep
    exact ⟨nofun, h.config, h.tunnel, h.atPoint⟩

theorem inv_of_run {file : Option (List UInt8)} (hfile : F.loadConfig file = none)
    {es : List (VpnDeviceEvent κ)} (hrun : (vpnMachine F).run (init file) es = some s) : s.Inv F :=
  Machine.invariant (I := fun s ↦ s.Inv F) (fun _ _ _ h hstep ↦ h.step hstep) (inv_init hfile) hrun

end VpnDevice

/-! ## Agreement -/

/-- **The tunnel agrees with the router.** A tunnel that is up has the private key for the last
request that was sent, and its address, peer and endpoint are those of one answer, since which every
request had that key. -/
theorem tunnel_agrees {file : Option (List UInt8)} {es : List (VpnDeviceEvent κ)}
    {s : VpnDevice κ α ρ} {t : WgTunnel κ α ρ} (hfile : F.loadConfig file = none)
    (hrun : (vpnMachine F).run (.init file) es = some s) (ht : s.tunnel = some t) :
    s.log.head?.map (·.request.wgPublicKey) = some (F.keyString (F.publicKey t.privateKey)) ∧
      ∃ ack, LastAnswer (F.keyString (F.publicKey t.privateKey)) ack s.log ∧
        F.tunnelOf (provisionedBy (F.generateKeyPair t.privateKey) ack) = some t := by
  have hinv := VpnDevice.inv_of_run hfile hrun
  obtain ⟨cfg, hcfg, htunnel⟩ := hinv.tunnel t ht
  obtain ⟨_, ack, ⟨k, rfl⟩, hlast, hbacked⟩ := hinv.config cfg hcfg
  have hof : F.tunnelOf (provisionedBy (F.generateKeyPair k) ack) = some t := by
    obtain rfl | rfl := hbacked
    · exact htunnel
    · rwa [F.tunnelOf_text] at htunnel
  have hkey : t.privateKey = k := by
    simp only [VpnFormats.tunnelOf, provisionedBy, VpnFormats.generateKeyPair,
      F.parseKey_keyString, Option.pure_def, Option.bind_eq_bind, Option.bind_eq_some_iff,
      Option.some.injEq] at hof
    obtain ⟨_, _, _, rfl, _, _, _, _, rfl⟩ := hof
    rfl
  subst hkey
  exact ⟨hlast.head, ack, hlast, hof⟩

end

/-! ## A tunnel from the file

Formats as the libraries have them: a key is its base64 text, addresses and endpoints are those of
IPv4, and the file is an object of strings. The public halves are given, without the curve. -/

def isBase64 (b : UInt8) : Bool :=
  (0x41 ≤ b && b ≤ 0x5A) || (0x61 ≤ b && b ≤ 0x7A) || (0x30 ≤ b && b ≤ 0x39) || b = 0x2B || b = 0x2F

/-- The text of 32 bytes: of the digit before the sign only the first four bits belong to them. -/
def isKeyText (text : List UInt8) : Bool :=
  text.length = 44 && (text.take 42).all isBase64 &&
    (text.drop 42).head?.any (JsonText.ascii "AEIMQUYcgkosw048").contains &&
    text.drop 43 = JsonText.ascii "="

abbrev WgKey := { text : List UInt8 // isKeyText text }

/-- A number below `bound`, without leading zeros. -/
def parseDecimal (bound : ℕ) (text : List UInt8) : Option ℕ :=
  let n := text.foldl (fun n b ↦ 10 * n + (b.toNat - 0x30)) 0
  if text ≠ [] ∧ text.all (fun b ↦ 0x30 ≤ b && b ≤ 0x39) ∧
      (text.length = 1 ∨ text.head? ≠ some 0x30)
    ∧ n < bound then some n
  else none

def parseIpv4 (text : List UInt8) : Option Ipv4 :=
  match text.splitOn 0x2E with
  | [a, b, c, d] => do
    let octet (t : List UInt8) := (parseDecimal 256 t).map UInt8.ofNat
    return ⟨← octet a, ← octet b, ← octet c, ← octet d⟩
  | _ => none

def parseIpv4Port (text : List UInt8) : Option (Ipv4 × ℕ) :=
  match text.splitOn 0x3A with
  | [ip, port] => do return (← parseIpv4 ip, ← parseDecimal 65536 port)
  | _ => none

def ProvisionedConfig.members (c : ProvisionedConfig) : List JsonText.Member :=
  [(JsonText.ascii "assigned_ip", c.assignedIP), (JsonText.ascii "private_key", c.privateKey),
    (JsonText.ascii "public_key", c.publicKey), (JsonText.ascii "server_pub_key", c.serverPubKey),
    (JsonText.ascii "server_endpoint", c.serverEndpoint)]

def ProvisionedConfig.ofMembers (members : List JsonText.Member) : ProvisionedConfig :=
  let field (name : String) := (members.lookup (JsonText.ascii name)).getD []
  ⟨field "assigned_ip", field "private_key", field "public_key", field "server_pub_key",
    field "server_endpoint"⟩

def wgFormats (publicKey : WgKey → WgKey) : VpnFormats WgKey Ipv4 (Ipv4 × ℕ) where
  keyString := Subtype.val
  parseKey b := if h : isKeyText b then some ⟨b, h⟩ else none
  publicKey := publicKey
  parseAddr := parseIpv4
  parseEndpoint := parseIpv4Port
  marshal c := JsonText.write c.members
  unmarshal data := (JsonText.read data).map ProvisionedConfig.ofMembers
  text := id
  parseKey_keyString k := dif_pos k.2
  parseKey_nil := rfl
  text_keyString _ := rfl
  parseKey_text _ := rfl
  parseAddr_text _ := rfl
  parseEndpoint_text _ := rfl
  unmarshal_marshal c := by
    rw [JsonText.read_write]
    rfl
  unmarshal_cut c n hn := by rw [JsonText.read_take_write hn, Option.map_none]

def dronePrivateKey : WgKey := ⟨JsonText.ascii "eNoHbKrmSfRg5A+bZTGRAKC1cjCpxE/FyGrws8k8vEc=", rfl⟩

def dronePublicKey : WgKey := ⟨JsonText.ascii "AwmYJ67yjg8OZmRr+t/kg3HaNfctDzDeNY17dP+Cy2w=", rfl⟩

def routerPublicKey : WgKey := ⟨JsonText.ascii "GOhTJ1at1hocqP1y1LqrAa3q27GYaJg7/6t8KVELhy8=", rfl⟩

/-- The formats, with the public half of one key. -/
def droneFormats : VpnFormats WgKey Ipv4 (Ipv4 × ℕ) :=
  wgFormats fun k ↦ if k = dronePrivateKey then dronePublicKey else k

def assignedTunnel : WgTunnel WgKey Ipv4 (Ipv4 × ℕ) where
  privateKey := dronePrivateKey
  peerKey := routerPublicKey
  address := ⟨10, 8, 0, 7⟩
  endpoint := (⟨203, 0, 113, 9⟩, 51820)

/-- A process is given a tunnel; the next one is not answered and uses the file. -/
def cachedTunnel : List (VpnDeviceEvent WgKey) :=
  [.boot, .request [7] [8] (some dronePrivateKey),
    .reply (some (VPNProvisionAck.enc ⟨resultSuccess, 0, JsonText.ascii "10.8.0.7/24",
      routerPublicKey.val, JsonText.ascii "203.0.113.9:51820"⟩)), .write .done,
    .start true, .crash none, .boot, .request [7] [8] none, .reply none, .start true]

theorem tunnel_agrees_cached :
    ∃ s, (vpnMachine droneFormats).run (.init none) cachedTunnel = some s ∧ s.log.length = 2 ∧
      s.tunnel = some assignedTunnel ∧
      s.log.head?.map (·.request.wgPublicKey) = some dronePublicKey.val ∧
        ∃ ack, LastAnswer dronePublicKey.val ack s.log ∧
          droneFormats.tunnelOf (provisionedBy (dronePrivateKey.val, dronePublicKey.val) ack) =
            some assignedTunnel := by
  have hend : ((vpnMachine droneFormats).run (.init none) cachedTunnel).map
      (fun s ↦ (s.tunnel, s.log.length)) = some (some assignedTunnel, 2) := by decide +kernel
  obtain ⟨s, hs, hpair⟩ := Option.map_eq_some_iff.mp hend
  obtain ⟨ht, hlength⟩ := Prod.ext_iff.mp hpair
  exact ⟨s, hs, hlength, ht, tunnel_agrees rfl hs ht⟩

end DroneBridge
