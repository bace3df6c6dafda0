import Mathlib.Data.Nat.Notation
import Mathlib.Data.List.Basic

/-!
# The VPN manager

`vpn/manager.go` keeps the provisioned configuration, on disk and in memory, and the state of the
userspace WireGuard tunnel. Each method is one critical section under `mu`. What the operating
system, the resolver and the network stack answer is an argument of the operation that asks.
-/

namespace DroneBridge

/-- The part of the provisioned configuration that the manager itself looks at. -/
structure VPNConfig where
  assignedIP : String
  deriving DecidableEq, Repr

structure Manager where
  config : Option VPNConfig
  /-- What `loadConfig` reads from the configuration file. -/
  file : Option VPNConfig
  /-- The tunnel is up. The source's `tun` is set and cleared together with it. -/
  running : Bool
  deriving DecidableEq, Repr

/-- An address without its prefix length. -/
def cleanIP (ip : String) : String := String.ofList (ip.toList.takeWhile (· ≠ '/'))

namespace Manager

variable (m : Manager)

/-- A configuration counts only when it holds an address. -/
def withAddress (cfg : Option VPNConfig) : Option VPNConfig :=
  cfg.filter fun c ↦ c.assignedIP ≠ ""

/-- The assigned address, from memory or else from the file; empty when there is none. -/
def getAssignedIP : String :=
  match withAddress m.config with
  | some c => cleanIP c.assignedIP
  | none =>
    match withAddress m.file with
    | some c => cleanIP c.assignedIP
    | none => ""

def isRunning : Bool := m.running

/-- `up` says whether the address and the keys parse and the device comes up; an empty address never
parses. -/
def start (up : Bool) : Manager :=
  if m.running then m
  else
    match m.config.or m.file with
    | none => m
    | some cfg =>
      if up ∧ cleanIP cfg.assignedIP ≠ "" then { m with config := some cfg, running := true }
      else m

def stop : Manager := { m with running := false }

/-- Store a new configuration; `written` says whether the file could be written. -/
def saveProvisionedConfig (cfg : VPNConfig) (written : Bool) : Manager :=
  if written then { m with file := some cfg, config := some cfg } else m

/-- `reached` is what the resolver and the network stack of the tunnel answer. -/
def dialUDP (reached : Bool) : Bool := m.running && reached

end Manager

/-- What happens to the manager while the forwarder runs. -/
inductive VPNEvent
  | start (up : Bool)
  | stop
  | saveProvisionedConfig (cfg : VPNConfig) (written : Bool)
  deriving DecidableEq, Repr

def Manager.apply (m : Manager) : VPNEvent → Manager
  | .start up => m.start up
  | .stop => m.stop
  | .saveProvisionedConfig cfg written => m.saveProvisionedConfig cfg written

end DroneBridge
