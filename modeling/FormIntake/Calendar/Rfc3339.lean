import FormIntake.Calendar.Layout

/-!
The RFC 3339 text of date-times. Years of more than four digits and years before year 0 have a sign;
a fraction of a second is written in threes of digits; offsets are written to the minute.
-/

namespace FormIntake.Rfc3339

def padded (width n : Nat) : List Char :=
  let digits := Nat.toDigits 10 n
  List.replicate (width - digits.length) '0' ++ digits

def writeYear (year : Int) : List Char :=
  if 0 ≤ year ∧ year ≤ 9999 then padded 4 year.toNat
  else (if year < 0 then '-' else '+') :: padded 4 year.natAbs

def writeFraction (nanosecond : Nat) : List Char :=
  if nanosecond = 0 then []
  else if nanosecond % 10 ^ 6 = 0 then '.' :: padded 3 (nanosecond / 10 ^ 6)
  else if nanosecond % 10 ^ 3 = 0 then '.' :: padded 6 (nanosecond / 10 ^ 3)
  else '.' :: padded 9 nanosecond

def writeDate (d : Date) : List Char :=
  writeYear d.year ++ '-' :: padded 2 d.month ++ '-' :: padded 2 d.day

def writeTime (t : TimeOfDay) : List Char :=
  let leap := 10 ^ 9 ≤ t.nanosecond
  padded 2 t.hour ++ ':' :: padded 2 t.minute ++
    ':' :: padded 2 (if leap then t.second + 1 else t.second) ++
    writeFraction (if leap then t.nanosecond - 10 ^ 9 else t.nanosecond)

def writeLocal (t : LocalDateTime) : List Char := writeDate t.date ++ 'T' :: writeTime t.time

def write (t : DateTime) : String := String.ofList (writeLocal t.localTime ++ t.offset.write)

def writeZulu (t : DateTime) : String :=
  String.ofList (writeLocal t.localTime ++
    if t.offset.seconds = 0 then ['Z'] else t.offset.write)

/-- Reads a date-time. White space may stand in front of each number and at the end, and digits in
front of it may be left out. -/
def read (text : String) : Option DateTime := do
  let (parts, rest) ← Layout.readItems {} text.toList (Layout.directive '+')
  if (rest.dropWhile Text.isBlank).isEmpty then
    DateTime.at? (← parts.localDateTime?) (← UtcOffset.ofSeconds? (← parts.offset))
  else none

end FormIntake.Rfc3339
