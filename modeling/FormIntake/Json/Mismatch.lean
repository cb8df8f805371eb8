import FormIntake.Json.Writer
import FormIntake.Number.Integer

namespace FormIntake

/-- The kind of a JSON value, with the value itself where it shows in messages. -/
inductive Found
  | null
  | bool (value : Bool)
  | int (value : Int)
  | float (value : Binary64)
  | text (value : String)
  | sequence
  | map
  deriving DecidableEq

namespace Found

def ofJson : Json → Found
  | .null => null
  | .bool b => bool b
  | .int n _ => int n
  | .float x _ => float x
  | .text s => text s
  | .array _ => sequence
  | .object _ => map

def describe : Found → String
  | null => "null"
  | bool b => "boolean `" ++ (if b then "true" else "false") ++ "`"
  | int n => "integer `" ++ toString n ++ "`"
  | float x => "floating point `" ++ x.jsonText ++ "`"
  | text s => "string " ++ Text.quoted s
  | sequence => "sequence"
  | map => "map"

end Found

inductive Expected
  | bool
  | text
  | sequence
  | map
  | int (width : IntWidth)
  | float
  | dateTime
  | settings
  deriving DecidableEq

def Expected.describe : Expected → String
  | bool => "a boolean"
  | text => "a string"
  | sequence => "a sequence"
  | map => "a map"
  | int width => width.name
  | float => "f64"
  | dateTime => "an RFC 3339 formatted date and time string"
  | settings => "struct FormSettings"

inductive Mismatch
  | wrongType (found : Found) (expected : Expected)
  | outOfRange (value : Int) (width : IntWidth)
  | badDateTime
  | missing (name : String)
  | tooFewSettings (count : Nat)
  | tooManySettings (count : Nat)
  deriving DecidableEq

def Mismatch.message : Mismatch → String
  | wrongType found expected =>
    "invalid type: " ++ found.describe ++ ", expected " ++ expected.describe
  | outOfRange value width =>
    "invalid value: integer `" ++ toString value ++ "`, expected " ++ width.name
  | badDateTime => "bad date-time"
  | missing name => "missing field `" ++ name ++ "`"
  | tooFewSettings count =>
    "invalid length " ++ toString count ++ ", expected struct FormSettings with 6 elements"
  | tooManySettings count =>
    "invalid length " ++ toString count ++ ", expected fewer elements in array"

namespace Json

def wrongType {α : Type} (value : Json) (expected : Expected) : Except Mismatch α :=
  .error (.wrongType (.ofJson value) expected)

def asBool : Json → Except Mismatch Bool
  | .bool b => .ok b
  | value => value.wrongType .bool

def asText : Json → Except Mismatch String
  | .text s => .ok s
  | value => value.wrongType .text

def asInt (width : IntWidth) : Json → Except Mismatch width.Value
  | .int n _ =>
    match width.value? n with
    | some held => .ok held
    | none => .error (.outOfRange n width)
  | value => value.wrongType (.int width)

def asFloat : Json → Except Mismatch Binary64
  | .float x _ => .ok x
  | .int n _ => .ok (.ofInt n)
  | value => value.wrongType .float

def asTexts : Json → Except Mismatch (List String)
  | .array items => items.mapM asText
  | value => value.wrongType .sequence

def readMember {α : Type} (members : Entries Json) (name : String)
    (read : Json → Except Mismatch α) : Except Mismatch α :=
  match members.get? name with
  | some value => read value
  | none => .error (.missing name)

end Json

end FormIntake
