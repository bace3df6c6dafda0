import DroneBridge.Config.Load
import DroneBridge.Netmon.Rendered

/-!
# Rewriting the file for its other readers

Every edit loads the file and saves it, and a save writes every field, with the zero value where the
file had left it open. The network monitor and the modem layer read the same file, and to them what
is left open has another meaning: a fallback after 300 seconds, and a modem that is on. So a rewrite
keeps what they do only for files that had spelled it out, in a form that both sides read alike.

The file may be any text; the service sees the tree that its parser makes of it. The monitor looks
for lines in the text, and a comment at the left edge ends the section for it. The saved text is
rendered and read line by line. What the modem layer's parser finds in a text is left open, except
that it finds the flags of a saved file.
-/

namespace DroneBridge

open Yaml (Codec Emitter IsOneLine isPlainKey isWord)

/-! ## The modem layer -/

/-- `bool` of a parsed value. -/
def pyBool : Yaml → Bool
  | .null => false
  | .bool b => b
  | .int n => n ≠ 0
  | .float _ q => q ≠ 0
  | .str s => s ≠ ""
  | .seq items => !items.isEmpty
  | .map entries => !entries.isEmpty

structure ModemSettings where
  enabled : Bool := true
  normalizeIface : Bool := true
  deriving DecidableEq, Repr

def ModemSettings.fromDict (data : List (String × Yaml)) : ModemSettings :=
  if data.isEmpty then {}
  else
    { enabled := pyBool ((data.lookup "enabled").getD (.bool true))
      normalizeIface := pyBool ((data.lookup "normalize_iface").getD (.bool true)) }

/-- The parser of the modem layer has found the flags as they were saved. -/
def CellularConfig.FoundIn (c : CellularConfig) (data : List (String × Yaml)) : Prop :=
  data.lookup "enabled" = some (.bool c.enabled) ∧
    data.lookup "normalize_iface" = some (.bool c.normalizeIface)

theorem fromDict_of_foundIn {c : CellularConfig} {data : List (String × Yaml)}
    (h : c.FoundIn data) : ModemSettings.fromDict data = ⟨c.enabled, c.normalizeIface⟩ := by
  cases data with
  | nil => exact nomatch h.1
  | cons e es => simp [ModemSettings.fromDict, h.1, h.2, pyBool]

/-! ## A saved file -/

def rewrite (text : ℚ → String) (doc : Yaml) : Except LoadError Yaml :=
  (load text doc).map (·.save text)

/-- The strings that a save writes into the section `network`. -/
def NetworkConfig.strings (n : NetworkConfig) : List String :=
  [n.targetHost, n.protocol, n.connectionType, n.serialPort, n.telem2Port, n.telem3Port, n.mode]

/-- Nothing in the strings breaks a line. -/
def NetworkConfig.OneLine (n : NetworkConfig) : Prop := ∀ s ∈ n.strings, IsOneLine s

/-- The lines of the section in a saved file. -/
def NetworkConfig.lines (E : Emitter) (n : NetworkConfig) : List Text :=
  (E.entries 4 n.entries).map (Yaml.indent 4)

/-- What the monitor reads of a number: nothing if it is negative. -/
def readNat (n : ℤ) : Option ℕ := if 0 ≤ n then some n.toNat else none

section

variable {E : Emitter} {n : NetworkConfig} {c : Config}

theorem flatSection_entries (h : n.OneLine) : FlatSection E n.entries := by
  have hkeys : n.entries.all (fun e ↦ isPlainKey e.1) = true := by
    simp only [NetworkConfig.entries, List.all_cons, List.all_nil]
    decide
  have hscalars : n.entries.all (fun e ↦ e.2.isScalar) = true := by
    cases hcloud : n.cloudWifiFallback <;> cases hgps : n.forwardGpsRawInt <;>
      simp [NetworkConfig.entries, hcloud, hgps, Codec.optBool, Codec.int, Codec.string,
        Yaml.isScalar]
  -- Only strings could go on in another line, and these do not.
  have hlines : ∀ e ∈ n.entries, (E.scalar e.2).2 = [] := by
    have hopt : ∀ b, (E.scalar (Codec.optBool.enc b)).2 = [] := by
      intro b
      cases b <;> rfl
    have hstr : ∀ s ∈ n.strings, (E.scalar (Codec.string.enc s)).2 = [] := fun s hs ↦
      E.str_single s (h s hs)
    have hint : ∀ i, (E.scalar (Codec.int.enc i)).2 = [] := fun _ ↦ rfl
    simp only [NetworkConfig.strings, List.forall_mem_cons] at hstr
    simp [NetworkConfig.entries, hopt, hint, hstr]
  intro e he
  exact ⟨List.all_eq_true.mp hkeys e he, List.all_eq_true.mp hscalars e he, hlines e he⟩

/-- With strings of one line, and a word as the mode, the lines say what the record says. -/
theorem linesSettings_lines (env : NetmonEnv) (hline : n.OneLine) (hmode : isWord n.mode = true) :
    linesSettings env (n.lines E) =
      settingsOf env (some n.mode) (readNat n.fallbackDelay.toInt)
        (some (n.cloudWifiFallback.getD false)) := by
  have hnodup : (n.entries.map Prod.fst).Nodup := by simp [NetworkConfig.entries]
  -- A setting is found at the line of its key, and no other line looks like one for it.
  have hfind {key : String} {p : Char → Bool} (hkey : isPlainKey key = true) :
      (n.lines E).findSome? (fun line ↦ (fieldText key.toList line).bind (leading p)) =
        (n.entries.lookup key).bind fun v ↦ leading p ((E.scalar v).1.dropWhile isSpace) :=
    findSome?_flat (flatSection_entries hline) hnodup hkey
  have hlookMode : n.entries.lookup "mode" = some (.str n.mode) := by
    simp [NetworkConfig.entries, List.lookup_cons, Codec.string]
  have hlookDelay : n.entries.lookup "fallback_delay" = some (.int n.fallbackDelay.toInt) := by
    simp [NetworkConfig.entries, List.lookup_cons, Codec.int]
  have hlookCloud : n.entries.lookup "cloud_wifi_fallback" =
      some (Codec.optBool.enc n.cloudWifiFallback) := by
    simp [NetworkConfig.entries, List.lookup_cons]
  -- What the readers of the monitor make of the three values.
  have hmode : modeOfText (E.scalar (.str n.mode)).1 = some n.mode := modeOfText_str E hmode
  have hdelay : delayOfText (E.scalar (.int n.fallbackDelay.toInt)).1 =
      readNat n.fallbackDelay.toInt := leading_toString _
  have hcloud : cloudOfText (E.scalar (Codec.optBool.enc n.cloudWifiFallback)).1 =
      some (n.cloudWifiFallback.getD false) := by
    cases n.cloudWifiFallback with
    | none => exact cloudOfText_null E
    | some b => exact cloudOfText_bool E b
  unfold linesSettings wordField digitsField
  rw [← hmode, ← hdelay, ← hcloud, hfind (by decide), hfind (by decide), hfind (by decide),
    hlookMode, hlookDelay, hlookCloud]
  rfl

/-- **A saved file.** The monitor reads the lines of the section. -/
theorem netmonSettings_save (env : NetmonEnv) :
    netmonSettings env [E.render (c.save E.float)] = linesSettings env (c.network.lines E) := by
  have hsave : c.save E.float = .map (
      [("log", LogConfig.codec.enc c.log), ("auth", (AuthConfig.codec E.float).enc c.auth),
        ("cellular", CellularConfig.codec.enc c.cellular)] ++
      ("network", .map c.network.entries) ::
      [("ethernet", EthernetConfig.codec.enc c.ethernet), ("web", WebConfig.codec.enc c.web),
        ("camera", (CameraConfig.codec E.float).enc c.camera),
        ("landing", (LandingConfig.codec E.float).enc c.landing),
        ("lcd", LCDConfig.codec.enc c.lcd), ("vpn", Config.VPNConfig.codec.enc c.vpn)]) := rfl
  -- No other section has the name of this one, so the scan reads it alone.
  have hne : c.network.entries ≠ [] := List.cons_ne_nil _ _
  rw [hsave, netmonSettings_render env ?_ ?_ hne, NetworkConfig.lines]
  · simp only [List.forall_mem_cons]
    exact ⟨by decide, by decide, by decide, fun _ he ↦ absurd he List.not_mem_nil⟩
  · simp only [List.forall_mem_cons]
    exact ⟨by decide, by decide, by decide, by decide, by decide, by decide,
      fun _ he ↦ absurd he List.not_mem_nil⟩

end

/-- A file with what the checks ask for, and these entries of the modem and the network besides. -/
def fileWith (modem network : List (String × Yaml)) : List (String × Yaml) :=
  [("cellular", .map modem),
    ("network", .map ([("local_listen_port", .int 14550), ("target_host", .str "10.0.0.1"),
      ("target_port", .int 14550)] ++ network)),
    ("web", .map [("port", .int 8080)])]

/-- The file that gives all settings, in the layout of the manual. -/
def givenText : Text := "cellular:
  enabled: true            # modem on
  normalize_iface: false

# uplink
network:
  # telemetry
  local_listen_port: 14550
  target_host: 10.0.0.1
  target_port: 14550
  mode: prefer_4g          # prefer_4g | 4g_only | wifi_only
  fallback_delay: 60       # seconds

  cloud_wifi_fallback: true
web:
  port: 8080
".toList

def givenModem : List (String × Yaml) := [("enabled", .bool true), ("normalize_iface", .bool false)]

def givenNetwork : List (String × Yaml) :=
  [("mode", .str "prefer_4g"), ("fallback_delay", .int 60), ("cloud_wifi_fallback", .bool true)]

/-- A comment at the left edge hides what follows it in the section. -/
example : (netmonSettings {} ["network:\n  # uplink\n  mode: wifi_only\n".toList]).policy = .wlan ∧
    (netmonSettings {} ["network:\n# uplink\n  mode: wifi_only\n".toList]).policy =
      .fallback 300 := by
  decide +kernel

/-- An underscore ends the number for the monitor; the service reads a thousand. -/
example : (netmonSettings {} ["network:\n  fallback_delay: 1_000\n".toList]).policy =
    .fallback 1 := by
  decide +kernel

end DroneBridge
