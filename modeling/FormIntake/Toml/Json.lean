import FormIntake.Json
import FormIntake.Toml.Scalar

namespace FormIntake.Toml

/-- The key that makes a date-time of a table that begins with it. -/
def dateTimeKey : String := "$__toml_private_datetime"

def markedDateTime? : Toml → Option Json
  | .text s => (Text.Reader.readAll Grammar.marked s.toList).map (.text ∘ String.ofList)
  | _ => none

mutual

/-- The JSON value with the same data; none where a table begins with the key of date-times and
stands for none. -/
def toJson? : Toml → Option Json
  | .text s => some (.text s)
  | .integer n => some (.ofInt n)
  | .float x => some (.ofFloat x)
  | .boolean b => some (.bool b)
  | .dateTime written => some (.text written)
  | .array items => (itemsToJson? items).map .array
  | .table members =>
    match members with
    | (name, value) :: rest =>
      if name = dateTimeKey then markedDateTime? value
      else do
        let first ← toJson? value
        return .ofMembers ((name, first) :: (← membersToJson? rest))
    | [] => some (.object [])

def itemsToJson? : List Toml → Option (List Json)
  | [] => some []
  | item :: rest => do return (← toJson? item) :: (← itemsToJson? rest)

def membersToJson? : List (String × Toml) → Option (List (String × Json))
  | [] => some []
  | (name, value) :: rest => do return (name, ← toJson? value) :: (← membersToJson? rest)

end

end FormIntake.Toml
