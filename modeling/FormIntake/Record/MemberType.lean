import FormIntake.Calendar.Rfc3339
import FormIntake.Json.Mismatch

namespace FormIntake

inductive PlainType
  | bool
  | int (width : IntWidth)
  | float
  | text
  | texts
  | dateTime
  deriving DecidableEq

namespace PlainType

abbrev Value : PlainType → Type
  | bool => Bool
  | int width => width.Value
  | float => Binary64
  | text => String
  | texts => List String
  | dateTime => DateTime

def default : (t : PlainType) → t.Value
  | bool => false
  | int width => width.zero
  | float => .zero
  | text => ""
  | texts => []
  | dateTime => .epoch

def write : (t : PlainType) → t.Value → Json
  | bool, b => .bool b
  | int _, n => .ofInt n
  | float, x => .ofFloat x
  | text, s => .text s
  | texts, list => .ofTexts list
  | dateTime, time => .text (Rfc3339.writeZulu time)

def readDateTime : Json → Except Mismatch DateTime
  | .text s =>
    match Rfc3339.read s with
    | some time => .ok time
    | none => .error .badDateTime
  | value => value.wrongType .dateTime

def read : (t : PlainType) → Json → Except Mismatch t.Value
  | bool, value => value.asBool
  | int width, value => value.asInt width
  | float, value => value.asFloat
  | text, value => value.asText
  | texts, value => value.asTexts
  | dateTime, value => readDateTime value

end PlainType

inductive MemberType
  | plain (type : PlainType)
  /-- A value or none; null stands for none. -/
  | optional (type : PlainType)
  | json
  deriving DecidableEq

namespace MemberType

abbrev Value : MemberType → Type
  | plain type => type.Value
  | optional type => Option type.Value
  | json => Json

def default : (t : MemberType) → t.Value
  | plain type => type.default
  | optional _ => none
  | json => .null

def write : (t : MemberType) → t.Value → Json
  | plain type, value => type.write value
  | optional type, some value => type.write value
  | optional _, none => .null
  | json, value => value

def read : (t : MemberType) → Json → Except Mismatch t.Value
  | plain type, value => type.read value
  | optional _, .null => .ok none
  | optional type, value => (type.read value).map some
  | json, value => .ok value

end MemberType

end FormIntake
