import FormIntake.Calendar.Rfc3339
import FormIntake.Json.Writer

namespace FormIntake

inductive FormValue
  | bool (value : Bool)
  | int (value : IntWidth.i32.Value)
  | int64 (value : IntWidth.i64.Value)
  | float (value : Binary64)
  | text (value : String)
  | dateTime (value : DateTime)
  | json (value : Json)

namespace FormValue

def asText? : FormValue → Option String
  | text s => some s
  | _ => none

def asBool? : FormValue → Option Bool
  | bool b => some b
  | _ => none

def asInt? : FormValue → Option Int
  | int n | int64 n => some n.val
  | _ => none

def asFloat? : FormValue → Option Binary64
  | float x => some x
  | _ => none

def asDateTime? : FormValue → Option DateTime
  | dateTime t => some t
  | _ => none

def kind : FormValue → String
  | bool _ => "bool"
  | int _ => "int"
  | int64 _ => "int64"
  | float _ => "float"
  | text _ => "string"
  | dateTime _ => "datetime"
  | json _ => "json"

def display : FormValue → String
  | bool b => if b then "true" else "false"
  | int n | int64 n => toString n.val
  | float x => x.text
  | text s => s
  | dateTime t => Rfc3339.write t
  | json j => j.write

def toJson : FormValue → Json
  | bool b => .bool b
  | int n => .ofInt n
  | int64 n => .ofInt n
  | float x => .ofFloat x
  | text s => .text s
  | dateTime t => .text (Rfc3339.writeZulu t)
  | json j => j

end FormValue

end FormIntake
