import DroneBridge.Lib.SectionScan

/-!
# How the monitor reads its settings

The monitor does not parse `config.yaml`. It looks for a line `network:` and, among the indented
lines that follow, for the first one that begins with the key. What it does not find has a default,
so a text that lacks the section reads like one that leaves every setting out.

The matchers follow the regular expressions of the source. White space is what the language of the
source calls so; digits are the ASCII ones.
-/

namespace DroneBridge

/-- A text, or a line of one without its end. -/
abbrev Text := List Char

/-! ## Characters -/

/-- The white space of `\s` and `isspace`. -/
def isSpace (c : Char) : Bool :=
  let n := c.toNat
  (0x09 ≤ n && n ≤ 0x0d) || (0x1c ≤ n && n ≤ 0x20) || n = 0x85 || n = 0xa0 || n = 0x1680 ||
    (0x2000 ≤ n && n ≤ 0x200a) || n = 0x2028 || n = 0x2029 || n = 0x202f || n = 0x205f || n = 0x3000

def isDigit (c : Char) : Bool := '0' ≤ c && c ≤ '9'

def lowerChar (c : Char) : Char :=
  if 'A' ≤ c && c ≤ 'Z' then Char.ofNat (c.toNat + 32) else c

/-- `strip` with one character. -/
def stripChar (c : Char) (t : Text) : Text :=
  ((t.dropWhile (· = c)).reverse.dropWhile (· = c)).reverse

/-- Quotes are taken off in this order. -/
def stripQuotes (t : Text) : Text := stripChar '\'' (stripChar '"' t)

/-- The lines of a text, whatever their ends are. -/
def splitLines : Text → List Text
  | [] => []
  | '\r' :: '\n' :: cs => [] :: splitLines cs
  | '\r' :: cs => [] :: splitLines cs
  | '\n' :: cs => [] :: splitLines cs
  | c :: cs =>
    match splitLines cs with
    | [] => [[c]]
    | l :: ls => (c :: l) :: ls

/-! ## Lines -/

/-- `^section:\s*$` -/
def isSectionHeader (name line : Text) : Bool :=
  (name ++ [':']).isPrefixOf line && (line.drop (name.length + 1)).all isSpace

/-- A line that is not empty and not indented. -/
def endsSection : Text → Bool
  | [] => false
  | c :: _ => !isSpace c

/-- What follows `^\s+key:\s*`. -/
def fieldText (key line : Text) : Option Text :=
  let rest := line.dropWhile isSpace
  if (line.head?.any isSpace) && (key ++ [':']).isPrefixOf rest then
    some ((rest.drop (key.length + 1)).dropWhile isSpace)
  else none

/-- The longest nonempty piece of characters that meet `p`. -/
def leading (p : Char → Bool) (t : Text) : Option Text :=
  if t.takeWhile p = [] then none else some (t.takeWhile p)

/-- `^\s+key:\s*(\S+)` -/
def wordField (key line : Text) : Option Text :=
  (fieldText key line).bind (leading fun c ↦ !isSpace c)

/-- `^\s+key:\s*(\d+)` -/
def digitsField (key line : Text) : Option Text :=
  (fieldText key line).bind (leading isDigit)

def decimal (digits : Text) : ℕ := digits.foldl (fun n c ↦ 10 * n + (c.toNat - '0'.toNat)) 0

/-! ## The settings -/

/-- A scan of the section `network`. -/
def networkScan {α : Type} (field : Text → Option α) : SectionScan Text α where
  isHeader := isSectionHeader "network".toList
  ends := endsSection
  field := field

/-- The first match in the files, by their order. The scan does not start afresh with a file. -/
def readNetwork {α : Type} (field : Text → Option α) (files : List Text) : Option α :=
  (networkScan field).scanAll false (files.map splitLines)

def loadNetworkMode (files : List Text) : String :=
  ((readNetwork (wordField "mode".toList) files).map fun t ↦ String.ofList (stripQuotes t)).getD
    "prefer_4g"

def loadFallbackDelay (files : List Text) : ℕ :=
  ((readNetwork (digitsField "fallback_delay".toList) files).map decimal).getD 300

/-- The words that count as true in the file. -/
def isTrueWord (t : Text) : Bool :=
  (stripQuotes t).map lowerChar ∈ ["1".toList, "true".toList, "yes".toList, "on".toList]

/-- The words that count as false in the environment. -/
def isFalseEnv (t : Text) : Bool :=
  ((t.dropWhile isSpace).reverse.dropWhile isSpace).reverse.map lowerChar ∈
    ["0".toList, "false".toList, "no".toList, "off".toList]

/-- The variables of the environment that override the file. -/
structure NetmonEnv where
  cloudWifiFallback : Option Text := none
  force4gOnly : Option Text := none

def loadCloudWifiFallback (env : NetmonEnv) (files : List Text) : Bool :=
  match env.cloudWifiFallback with
  | some t => !isFalseEnv t
  | none =>
    ((readNetwork (wordField "cloud_wifi_fallback".toList) files).map isTrueWord).getD true

def force4gOnlyFromPolicy (env : NetmonEnv) (files : List Text) : Bool :=
  match env.force4gOnly with
  | some t => !isFalseEnv t
  | none => loadNetworkMode files = "4g_only"

/-! ## One setting or the other -/

inductive Setting
  | mode
  | fallbackDelay
  | cloudWifiFallback
  deriving DecidableEq, Repr

inductive SettingValue
  | mode (value : String)
  | fallbackDelay (value : ℕ)
  | cloudWifiFallback (value : Bool)
  deriving DecidableEq, Repr

def loadSetting (env : NetmonEnv) (files : List Text) : Setting → SettingValue
  | .mode => .mode (loadNetworkMode files)
  | .fallbackDelay => .fallbackDelay (loadFallbackDelay files)
  | .cloudWifiFallback => .cloudWifiFallback (loadCloudWifiFallback env files)

/-- A setting that no file has. -/
def defaultSetting (env : NetmonEnv) : Setting → SettingValue
  | .mode => .mode "prefer_4g"
  | .fallbackDelay => .fallbackDelay 300
  | .cloudWifiFallback => .cloudWifiFallback ((env.cloudWifiFallback.map (!isFalseEnv ·)).getD true)

theorem loadSetting_empty (env : NetmonEnv) (k : Setting) :
    loadSetting env [[]] k = defaultSetting env k := by
  cases k with
  | mode => rfl
  | fallbackDelay => rfl
  | cloudWifiFallback =>
    rw [loadSetting, defaultSetting, loadCloudWifiFallback]
    cases env.cloudWifiFallback <;> rfl

end DroneBridge
