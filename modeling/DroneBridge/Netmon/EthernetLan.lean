import DroneBridge.Lib.Ipv4
import DroneBridge.Netmon.Rendered

/-!
# The network of the flight controller

The monitor reads the section `ethernet` of the configuration as it reads `network`, except that
every line of the section counts and a later one overrides. From `local_ip` and `subnet` it makes
the network that is routed to the Ethernet port: the address with a zero in place of its last octet,
and the prefix length as it stands in the file. That is the network of this prefix around `local_ip`
only where the prefix ends where the zero begins, or where the octets happen to agree
(`cidr_is_network_iff`).
-/

namespace DroneBridge

open Yaml (Emitter)

/-! ## The settings -/

structure EthernetSettings where
  interface : Text
  localIp : Text
  pixhawkIp : Text
  subnet : Text
  deriving DecidableEq

/-- The settings with the network that is made of them. -/
structure EthernetLan extends EthernetSettings where
  cidr : Text
  deriving DecidableEq

/-- The variables of the environment that this reader looks at. -/
structure EthernetEnv where
  ethIface : Option Text := none
  ethLanCidr : Option Text := none

/-- `strip` without an argument. -/
def stripSpace (t : Text) : Text := ((t.dropWhile isSpace).reverse.dropWhile isSpace).reverse

/-- What follows an optional `"`. -/
def afterQuote : Text → Text
  | '"' :: t => t
  | t => t

/-- `^\s+key:\s*"?(p+)"?` -/
def quotedField (p : Char → Bool) (key line : Text) : Option Text :=
  (fieldText key line).bind fun t ↦ leading p (afterQuote t)

/-- Neither a quote nor a space. -/
def isPlainChar (c : Char) : Bool := c ≠ '"' && !isSpace c

namespace EthernetSettings

def initial (env : EthernetEnv) : EthernetSettings where
  interface := env.ethIface.getD "eth0".toList
  localIp := []
  pixhawkIp := "10.41.10.2".toList
  subnet := "24".toList

/-- A setting keeps its value on a line that does not match. -/
def setting (old : Text) (found : Option Text) : Text := (found.map (stripChar '\'')).getD old

def readLine (cfg : EthernetSettings) (line : Text) : EthernetSettings where
  interface := setting cfg.interface (wordField "interface".toList line)
  localIp := setting cfg.localIp (quotedField isPlainChar "local_ip".toList line)
  pixhawkIp := setting cfg.pixhawkIp (quotedField isPlainChar "pixhawk_ip".toList line)
  subnet := setting cfg.subnet (quotedField isDigit "subnet".toList line)

/-- One turn of the loop over the lines. A line that is not indented ends the loop within the
section, and the flag stays. -/
def turn (s : Bool × EthernetSettings) (line : Text) : Option (Bool × EthernetSettings) :=
  if isSectionHeader "ethernet".toList line then some (true, s.2)
  else if s.1 && endsSection line then none
  else if !s.1 then some s
  else some (s.1, s.2.readLine line)

def readLines (s : Bool × EthernetSettings) : List Text → Bool × EthernetSettings
  | [] => s
  | line :: lines =>
    match turn s line with
    | none => s
    | some s' => readLines s' lines

/-- The files in their order, with what the section is so far. -/
def read (env : EthernetEnv) (files : List Text) : EthernetSettings :=
  (files.foldl (fun s file ↦ readLines s (splitLines file)) (false, initial env)).2

end EthernetSettings

/-! ## The network -/

/-- The network that is made of the address, if it has four parts. -/
def cidrOfLocalIp (cfg : EthernetSettings) : Option Text :=
  if cfg.localIp = [] then none
  else
    match cfg.localIp.splitOn '.' with
    | [a, b, c, _] =>
      let subnet := if cfg.subnet = [] then "24".toList else cfg.subnet
      some (a ++ '.' :: b ++ '.' :: c ++ ".0/".toList ++ subnet)
    | _ => none

def ethernetCidr (env : EthernetEnv) (cfg : EthernetSettings) : Text :=
  let cidr := stripSpace (env.ethLanCidr.getD [])
  if cidr = [] then (cidrOfLocalIp cfg).getD "10.41.10.0/24".toList else cidr

/-- The first of the names that the system has. -/
def resolveEthIface (hasIface : Text → Bool) (configured : Text) : Text :=
  if configured ≠ [] && hasIface configured then configured
  else
    match ["end0".toList, "eth0".toList].find? hasIface with
    | some name => name
    | none => if configured = [] then "eth0".toList else configured

def loadEthernetLan (env : EthernetEnv) (hasIface : Text → Bool) (files : List Text) :
    EthernetLan :=
  let cfg := EthernetSettings.read env files
  { cfg with
    interface := resolveEthIface hasIface cfg.interface
    cidr := ethernetCidr env cfg }

/-! ## A file with an address and a prefix length -/

def quotedLine (key : String) (t : Text) : Text :=
  ' ' :: ' ' :: (key.toList ++ ':' :: ' ' :: '"' :: (t ++ ['"']))

/-- The section `ethernet` with an address and a prefix length. -/
def ethernetFile (ip : Ipv4) (n : ℕ) : Text :=
  ["ethernet:".toList, quotedLine "local_ip" ip.text,
    quotedLine "subnet" (Nat.toDigits 10 n)].flatMap (· ++ ['\n'])

theorem setting_quoted {p : Char → Bool} {t : Text} (hne : t ≠ []) (hquote : p '"' = false)
    (hp : ∀ c ∈ t, p c = true) (hstrip : '\'' ∉ t) (old : Text) :
    EthernetSettings.setting old (leading p (t ++ ['"'])) = t := by
  have htake : (t ++ ['"']).takeWhile p = t := by
    rw [List.takeWhile_append_of_pos hp, List.takeWhile_cons_of_neg (by simp [hquote]),
      List.append_nil]
  rw [leading, htake, if_neg hne]
  exact stripChar_eq_self hstrip

theorem isPlainChar_of_mem_text {ip : Ipv4} {c : Char} (hc : c ∈ ip.text) :
    isPlainChar c = true := by
  rcases Ipv4.isDigit_or_dot_of_mem_text hc with hdigit | rfl
  · have hquote : c ≠ '"' := fun h ↦ absurd (h ▸ hdigit) (by decide)
    simp [isPlainChar, hquote, isSpace_of_isDigit hdigit]
  · decide

theorem readLine_local_ip (cfg : EthernetSettings) (ip : Ipv4) :
    cfg.readLine (quotedLine "local_ip" ip.text) = { cfg with localIp := ip.text } := by
  have hquote : '\'' ∉ ip.text := fun h ↦
    absurd (Ipv4.isDigit_or_dot_of_mem_text h) (by decide)
  have hip := setting_quoted ip.text_ne_nil (show isPlainChar '"' = false by decide)
    (fun _ ↦ isPlainChar_of_mem_text) hquote cfg.localIp
  exact congrArg (fun t ↦ { cfg with localIp := t }) hip

theorem readLine_subnet (cfg : EthernetSettings) (n : ℕ) :
    cfg.readLine (quotedLine "subnet" (Nat.toDigits 10 n)) =
      { cfg with subnet := Nat.toDigits 10 n } := by
  have hsubnet := setting_quoted Nat.toDigits_ne_nil (show isDigit '"' = false by decide)
    (fun _ ↦ Nat.isDigit_of_mem_toDigits (by decide) (by decide))
    (Nat.notMem_toDigits (n := n) (by decide)) cfg.subnet
  exact congrArg (fun t ↦ { cfg with subnet := t }) hsubnet

theorem turn_quotedLine (cfg : EthernetSettings) (key : String) (t : Text) :
    EthernetSettings.turn (true, cfg) (quotedLine key t) =
      some (true, cfg.readLine (quotedLine key t)) := by
  have hheader : isSectionHeader "ethernet".toList (quotedLine key t) = false := rfl
  have hends : endsSection (quotedLine key t) = false := rfl
  rw [EthernetSettings.turn, hheader, hends]
  rfl

theorem isLine_quotedLine {key : String} (hkey : Yaml.IsLine key.toList) {t : Text}
    (ht : Yaml.IsLine t) : Yaml.IsLine (quotedLine key t) := by
  simp_all [Yaml.IsLine, quotedLine]

theorem splitLines_ethernetFile (ip : Ipv4) (n : ℕ) : splitLines (ethernetFile ip n) =
    ["ethernet:".toList, quotedLine "local_ip" ip.text,
      quotedLine "subnet" (Nat.toDigits 10 n)] := by
  have hip : Yaml.IsLine ip.text := by
    constructor <;> intro hc <;> exact absurd (Ipv4.isDigit_or_dot_of_mem_text hc) (by decide)
  have hn : Yaml.IsLine (Nat.toDigits 10 n) :=
    Emitter.isLine_of_forall_isDigit fun _ ↦ Nat.isDigit_of_mem_toDigits (by decide) (by decide)
  refine splitLines_flatMap (List.forall_mem_cons.mpr ⟨⟨by decide, by decide⟩,
    List.forall_mem_cons.mpr ⟨?_, List.forall_mem_singleton.mpr ?_⟩⟩)
  · exact isLine_quotedLine ⟨by decide, by decide⟩ hip
  · exact isLine_quotedLine ⟨by decide, by decide⟩ hn

/-- Every address and every prefix length can be configured. -/
theorem read_ethernetFile (env : EthernetEnv) (ip : Ipv4) (n : ℕ) :
    EthernetSettings.read env [ethernetFile ip n] =
      { EthernetSettings.initial env with localIp := ip.text, subnet := Nat.toDigits 10 n } := by
  have hheader : EthernetSettings.turn (false, EthernetSettings.initial env) "ethernet:".toList =
      some (true, EthernetSettings.initial env) := by
    rw [EthernetSettings.turn, if_pos (by decide)]
  have hlines : EthernetSettings.readLines (false, EthernetSettings.initial env)
      (splitLines (ethernetFile ip n)) = (true, { EthernetSettings.initial env with
        localIp := ip.text, subnet := Nat.toDigits 10 n }) := by
    simp only [splitLines_ethernetFile, EthernetSettings.readLines, hheader, turn_quotedLine,
      readLine_local_ip, readLine_subnet]
  exact congrArg Prod.snd hlines

/-! ## The network around the address -/

/-- The network that the monitor writes for an address and a prefix length. -/
theorem ethernetCidr_eq_text {env : EthernetEnv} {cfg : EthernetSettings} {ip : Ipv4} {n : ℕ}
    (henv : stripSpace (env.ethLanCidr.getD []) = []) (hip : cfg.localIp = ip.text)
    (hn : cfg.subnet = Nat.toDigits 10 n) :
    ethernetCidr env cfg = (Ipv4Network.mk (ip.withLast 0) n).text := by
  have hcidr : cidrOfLocalIp cfg = some (Ipv4Network.mk (ip.withLast 0) n).text := by
    rw [cidrOfLocalIp, hip, if_neg ip.text_ne_nil, ip.splitOn_text, hn]
    simp only [if_neg Nat.toDigits_ne_nil, Ipv4Network.text, Ipv4.text, Ipv4.withLast,
      List.append_assoc, List.cons_append]
    rfl
  rw [ethernetCidr, henv, if_pos rfl, hcidr, Option.getD_some]

/-- **The route to the flight controller.** The computed text is the network of the prefix around
the address exactly when the first three octets have no bit below the prefix and the last octet has
none within it. -/
theorem cidr_is_network_iff {env : EthernetEnv} {hasIface : Text → Bool} {files : List Text}
    {ip : Ipv4} {n : ℕ} (hle : n ≤ 32) (henv : stripSpace (env.ethLanCidr.getD []) = [])
    (hip : (EthernetSettings.read env files).localIp = ip.text)
    (hn : (EthernetSettings.read env files).subnet = Nat.toDigits 10 n) :
    (∃ N : Ipv4Network, (loadEthernetLan env hasIface files).cidr = N.text ∧ N.prefixLen = n ∧
        N.HostBitsZero ∧ N.Contains ip) ↔
      ip.toNat / 256 % 2 ^ (24 - n) = 0 ∧ ip.d.toNat < 2 ^ (32 - n) := by
  have htext : (loadEthernetLan env hasIface files).cidr =
      (Ipv4Network.mk (ip.withLast 0) n).text := ethernetCidr_eq_text henv hip hn
  rw [← Ipv4Network.isNetwork_withLast_zero_iff ip hle, htext]
  constructor
  · rintro ⟨N, hN, -, hzero, hmem⟩
    rw [Ipv4Network.text_inj hN]
    exact ⟨hzero, hmem⟩
  · rintro ⟨hzero, hmem⟩
    exact ⟨_, rfl, rfl, hzero, hmem⟩

/-- The address of the board in the prefix of its network. -/
theorem cidr_is_network_board : ∃ N : Ipv4Network,
    (loadEthernetLan {} (fun _ ↦ true) [ethernetFile ⟨10, 41, 10, 1⟩ 24]).cidr = N.text ∧
      N.prefixLen = 24 ∧ N.HostBitsZero ∧ N.Contains ⟨10, 41, 10, 1⟩ :=
  (cidr_is_network_iff (by decide) rfl (congrArg _ (read_ethernetFile {} ⟨10, 41, 10, 1⟩ 24))
    (congrArg _ (read_ethernetFile {} ⟨10, 41, 10, 1⟩ 24))).mpr (by decide)

/-- With `10.41.10.200` and `25` the route is for `10.41.10.0/25`, which ends at `10.41.10.127`. -/
theorem cidr_without_address :
    (loadEthernetLan {} (fun _ ↦ true) [ethernetFile ⟨10, 41, 10, 200⟩ 25]).cidr =
        "10.41.10.0/25".toList ∧
      ¬ ∃ N : Ipv4Network,
        (loadEthernetLan {} (fun _ ↦ true) [ethernetFile ⟨10, 41, 10, 200⟩ 25]).cidr = N.text ∧
          N.prefixLen = 25 ∧ N.HostBitsZero ∧ N.Contains ⟨10, 41, 10, 200⟩ := by
  have hcidr : (loadEthernetLan {} (fun _ ↦ true) [ethernetFile ⟨10, 41, 10, 200⟩ 25]).cidr =
      (Ipv4Network.mk ⟨10, 41, 10, 0⟩ 25).text := by
    decide +kernel
  refine ⟨hcidr.trans (by decide), ?_⟩
  rintro ⟨N, hN, -, -, hmem⟩
  rw [hcidr] at hN
  rw [← Ipv4Network.text_inj hN] at hmem
  exact absurd hmem (by decide)

end DroneBridge
