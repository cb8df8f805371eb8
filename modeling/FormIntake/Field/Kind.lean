import FormIntake.Calendar.Layout
import FormIntake.Field.Validator
import FormIntake.Settings

namespace FormIntake

inductive Kind
  | bool | date | dateFlex | dateTime | float | int | int64 | string
  deriving DecidableEq, Repr

namespace Kind

def all : List Kind := [bool, date, dateFlex, dateTime, float, int, int64, string]

def name : Kind → String
  | bool => "bool"
  | date => "date"
  | dateFlex => "dateflex"
  | dateTime => "datetime"
  | float => "float"
  | int => "int"
  | int64 => "int64"
  | string => "string"

def ofName? (name : String) : Option Kind := all.find? fun k => k.name = name

def readBool (raw : String) : Option Bool :=
  if raw = "true" then some true
  else if raw = "false" ∨ raw = "" then some false
  else none

def readInt (width : IntWidth) (raw : String) : Option width.Value :=
  if raw = "" then some width.zero
  else
    match found : Integer.read width raw.toList with
    | .ok n => some ⟨n, Integer.holds_of_read found⟩
    | .error _ => none

def readFloat (raw : String) : Option Binary64 :=
  if raw = "" then some .zero else (Decimal.read raw.toList).filter (·.isFinite)

def readDate (layouts : List String) (offset : UtcOffset) (raw : String) : Option DateTime := do
  let date ← layouts.findSome? fun layout => Layout.readDate layout raw
  DateTime.at? ⟨date, .midnight⟩ offset

def readDateTime (layouts : List String) (offset : UtcOffset) (raw : String) : Option DateTime := do
  let localTime ← layouts.findSome? fun layout => Layout.readDateTime layout raw
  DateTime.at? localTime offset

def inZone (s : Settings) (raw : String) (read : UtcOffset → Option DateTime) : Option DateTime :=
  if raw = "" then some .zero else s.offset.toOption.bind read

def convert (k : Kind) (raw : String) (s : Settings) : Option FormValue :=
  match k with
  | bool => (readBool raw).map .bool
  | string => some (.text raw)
  | int => (readInt .i32 raw).map .int
  | int64 => (readInt .i64 raw).map .int64
  | float => (readFloat raw).map .float
  | date => (inZone s raw fun offset => readDate s.dateLayouts offset raw).map .dateTime
  | dateTime => (inZone s raw fun offset => readDateTime s.dateTimeLayouts offset raw).map .dateTime
  | dateFlex =>
    (inZone s raw fun offset =>
      (readDate s.dateLayouts offset raw).or (readDateTime s.dateTimeLayouts offset raw)).map
      .dateTime

def validator : Kind → Option Validator
  | string => some Validator.text
  | int | int64 => some Validator.integer
  | float => some Validator.float
  | bool | date | dateTime | dateFlex => none

end Kind

end FormIntake
