import FormIntake.Json.Mismatch
import FormIntake.Settings

namespace FormIntake.Settings

def toJson (s : Settings) : Json :=
  .object
    [("date_formats", .ofTexts s.dateLayouts),
      ("date_time_formats", .ofTexts s.dateTimeLayouts),
      ("debug", .bool s.debug),
      ("log_level", .text s.logLevel),
      ("time_zone", .text s.timeZone),
      ("trim_whitespace", .bool s.trimWhitespace)]

/-- Reads the six members in order of their names; all others are passed over. -/
def ofMembers (members : List (String × Json)) : Except Mismatch Settings := do
  let dateLayouts ← Json.readMember members "date_formats" Json.asTexts
  let dateTimeLayouts ← Json.readMember members "date_time_formats" Json.asTexts
  let debug ← Json.readMember members "debug" Json.asBool
  let logLevel ← Json.readMember members "log_level" Json.asText
  let timeZone ← Json.readMember members "time_zone" Json.asText
  let trimWhitespace ← Json.readMember members "trim_whitespace" Json.asBool
  return { trimWhitespace, timeZone, dateLayouts, dateTimeLayouts, logLevel, debug }

def readItem {α : Type} (items : List Json) (place : Nat) (read : Json → Except Mismatch α) :
    Except Mismatch α :=
  match items[place]? with
  | some value => read value
  | none => .error (.tooFewSettings place)

def ofItems (items : List Json) : Except Mismatch Settings := do
  let trimWhitespace ← readItem items 0 Json.asBool
  let timeZone ← readItem items 1 Json.asText
  let dateLayouts ← readItem items 2 Json.asTexts
  let dateTimeLayouts ← readItem items 3 Json.asTexts
  let logLevel ← readItem items 4 Json.asText
  let debug ← readItem items 5 Json.asBool
  if 6 < items.length then .error (.tooManySettings items.length)
  else return { trimWhitespace, timeZone, dateLayouts, dateTimeLayouts, logLevel, debug }

def ofJson : Json → Except Mismatch Settings
  | .object members => ofMembers members
  | .array items => ofItems items
  | value => value.wrongType .settings

end FormIntake.Settings
