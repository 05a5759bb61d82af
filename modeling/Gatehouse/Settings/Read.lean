import Gatehouse.Credentials.Check
import Gatehouse.Settings.Entries
import Gatehouse.Text.Decimal

/-!
# Settings

A deployment is set up by named text variables. They are read all at once, before
anything else happens, and the first one that is not well formed is reported;
there are no half-read settings. A variable that is not set has a default. The
realm is the one setting that cannot be wrong: a blank one counts as not set.
-/

namespace Gatehouse

open Text

/-- The variables that are read. -/
inductive Setting where
  | tcpPort
  | realm
  | mode
  | tokens
  | users
  | timeout
  | bodyLimit
  deriving DecidableEq, Repr

/-- The name that a variable is set under. -/
def Setting.key : Setting → String
  | tcpPort => "PORT"
  | realm => "AUTH_REALM"
  | mode => "AUTH_MODE"
  | tokens => "AUTH_TOKENS"
  | users => "AUTH_BASIC_USERS"
  | timeout => "REQUEST_TIMEOUT_SECS"
  | bodyLimit => "REQUEST_BODY_LIMIT_BYTES"

/-- Why settings are refused. -/
inductive SettingsError where
  /-- The text of this variable is not well formed. -/
  | invalid (setting : Setting)
  deriving DecidableEq, Repr

def SettingsError.message : SettingsError → String
  | invalid setting => "invalid configuration: " ++ setting.key

/-- The variables that are set, by name. -/
abbrev Environment := String → Option String

/-- All that a deployment chooses. -/
structure Settings where
  tcpPort : Nat
  realm : String
  mode : Mode
  tokens : List TokenEntry
  users : List UserEntry
  /-- The longest that a request may take, in seconds. -/
  timeoutSecs : Nat
  /-- The longest body that a request may announce, in bytes. -/
  bodyLimit : Nat
  deriving DecidableEq, Repr

namespace Settings

/-- The greatest number of 16 bits. -/
def greatestTcpPort : Nat := UInt16.size - 1

/-- The greatest number of 64 bits. -/
def greatestWord : Nat := UInt64.size - 1

/-- The realm of a deployment that names none. -/
def defaultRealm : String := "authchain"

/-- A number setting, with blanks around it. -/
def readNumber? (bound : Nat) (text : String) : Option Nat := readNat? bound (trim text.toList)

/-- A time limit is a positive number. -/
def readTimeout? (text : String) : Option Nat :=
  (readNumber? greatestWord text).filter (fun secs => 0 < secs)

/-- A blank realm counts as none. -/
def realmOf (text : Option String) : String :=
  ((text.map trimString).filter (fun realm => !realm.isEmpty)).getD defaultRealm

/-- The value of a setting, or its default if it is not set. -/
def readOr {α : Type} (env : Environment) (setting : Setting) (default : α)
    (read? : String → Option α) : Except SettingsError α :=
  match env setting.key with
  | none => .ok default
  | some text =>
    match read? text with
    | some value => .ok value
    | none => .error (.invalid setting)

/-- Reads the settings of a deployment. -/
def read (env : Environment) : Except SettingsError Settings := do
  let tcpPort ← readOr env .tcpPort 3000 (readNumber? greatestTcpPort)
  let realm := realmOf (env Setting.realm.key)
  let mode ← readOr env .mode .optional Mode.read?
  let tokens ← readOr env .tokens [] readTokens?
  let users ← readOr env .users [] readUsers?
  let timeoutSecs ← readOr env .timeout 30 readTimeout?
  let bodyLimit ← readOr env .bodyLimit (1024 * 1024) (readNumber? greatestWord)
  return { tcpPort, realm, mode, tokens, users, timeoutSecs, bodyLimit }

/-- Where the service listens. -/
def address (settings : Settings) : String := s!"0.0.0.0:{settings.tcpPort}"

end Settings

end Gatehouse
