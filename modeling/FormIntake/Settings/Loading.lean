import FormIntake.Json.Reader
import FormIntake.Settings.Members
import FormIntake.Text.LowerCase
import FormIntake.Text.Utf8
import FormIntake.Toml.Json
import FormIntake.Toml.Reader

namespace FormIntake.Settings

def readText (format : Format) (text : List Char) : Option Json :=
  match format with
  | .json => Json.read text
  | .toml => (Toml.read text).bind (·.toJson?)

def ofOverrides (format : Format) (overrides : Json) : Except FormError Settings :=
  match ofJson (standard.toJson.merge overrides) with
  | .ok s => s.checked
  | .error found => .error (.configuration (.mismatch format found))

def ofText (format : Format) (text : List Char) : Except FormError Settings :=
  match readText format text with
  | some overrides => ofOverrides format overrides
  | none => .error (.configuration (.unreadable format))

def ofFile (format : Format) : Option (List UInt8) → Except FormError Settings
  | none => .error (.io .notFound)
  | some octets =>
    match Text.Utf8.decode? octets with
    | some text => ofText format text
    | none => .error (.io .notText)

abbrev Environment := Entries String

def isOn (text : String) : Bool :=
  let word := Text.lowerCase (Text.trim text)
  word = "true" || word = "1" || word = "yes"

/-- `s` with the values that the environment gives; they are not checked. -/
def withEnvironment (s : Settings) (env : Environment) : Settings :=
  { s with
    trimWhitespace := ((env.get? "FORMSPEC_TRIM_WHITESPACE").map isOn).getD s.trimWhitespace
    timeZone := (env.get? "FORMSPEC_TIME_ZONE").getD s.timeZone
    logLevel := (env.get? "FORMSPEC_LOG_LEVEL").getD s.logLevel
    debug := ((env.get? "FORMSPEC_DEBUG").map isOn).getD s.debug }

def ofEnvironment (env : Environment) : Except FormError Settings :=
  (standard.withEnvironment env).checked

/-- Settings from a file, which have to pass the check themselves, and then from the environment. -/
def ofFileAndEnvironment (format : Format) (file : Option (List UInt8)) (env : Environment) :
    Except FormError Settings := do
  let s ← ofFile format file
  (s.withEnvironment env).checked

end FormIntake.Settings
