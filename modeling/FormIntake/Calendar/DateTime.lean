import FormIntake.Calendar.Date
import FormIntake.Calendar.Offset

namespace FormIntake

/-- A time of day. A leap second counts a second and more of nanoseconds. -/
structure TimeOfDay where
  hour : Nat
  minute : Nat
  second : Nat
  nanosecond : Nat
  inDay : hour < 24 ∧ minute < 60 ∧ second < 60 ∧ nanosecond < 2 * 10 ^ 9
  deriving DecidableEq

namespace TimeOfDay

def of? (hour minute second nanosecond : Nat) : Option TimeOfDay :=
  if fits : hour < 24 ∧ minute < 60 ∧ second < 60 ∧ nanosecond < 2 * 10 ^ 9 then
    some ⟨hour, minute, second, nanosecond, fits⟩
  else none

def midnight : TimeOfDay := ⟨0, 0, 0, 0, by decide⟩

def secondOfDay (t : TimeOfDay) : Nat := 3600 * t.hour + 60 * t.minute + t.second

end TimeOfDay

structure LocalDateTime where
  date : Date
  time : TimeOfDay
  deriving DecidableEq

namespace LocalDateTime

def secondNumber (t : LocalDateTime) : Int := 86400 * t.date.dayNumber + t.time.secondOfDay

def leastSecond : Int := 86400 * (Calendar.daysBeforeYear Calendar.leastYear + 1)

def greatestSecond : Int := 86400 * (Calendar.daysBeforeYear (Calendar.greatestYear + 1) + 1) - 1

end LocalDateTime

/-- A local date-time at an offset, where universal time is in the calendar too. An instant near the
ends of the calendar whose local time lies past them has no value here. -/
structure DateTime where
  localTime : LocalDateTime
  offset : UtcOffset
  inCalendar : LocalDateTime.leastSecond ≤ localTime.secondNumber - offset.seconds ∧
    localTime.secondNumber - offset.seconds ≤ LocalDateTime.greatestSecond
  deriving DecidableEq

namespace DateTime

def at? (localTime : LocalDateTime) (offset : UtcOffset) : Option DateTime :=
  if fits : LocalDateTime.leastSecond ≤ localTime.secondNumber - offset.seconds ∧
      localTime.secondNumber - offset.seconds ≤ LocalDateTime.greatestSecond then
    some ⟨localTime, offset, fits⟩
  else none

/-- The first instant of year 1 in universal time, which stands for an absent date. -/
def zero : DateTime :=
  ⟨⟨⟨1, 1, 1, by decide⟩, .midnight⟩, .zero, by decide⟩

def epoch : DateTime :=
  ⟨⟨⟨1970, 1, 1, by decide⟩, .midnight⟩, .zero, by decide⟩

end DateTime

end FormIntake
