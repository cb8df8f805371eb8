namespace FormIntake

namespace Calendar

def leastYear : Int := -262143

def greatestYear : Int := 262142

def isLeapYear (year : Int) : Bool := year % 4 = 0 && (year % 100 ≠ 0 || year % 400 = 0)

def daysInMonth (year : Int) : Nat → Nat
  | 1 | 3 | 5 | 7 | 8 | 10 | 12 => 31
  | 4 | 6 | 9 | 11 => 30
  | 2 => if isLeapYear year then 29 else 28
  | _ => 0

def daysBefore (year : Int) (month : Nat) : Nat :=
  (List.range (month - 1)).foldl (fun days m => days + daysInMonth year (m + 1)) 0

def daysBeforeYear (year : Int) : Int :=
  let y := year - 1
  365 * y + y / 4 - y / 100 + y / 400

def yearAndDay (dayNumber : Int) : Int × Nat :=
  -- Years of the mean length miss the year by one at most.
  let guess := (dayNumber - 1) * 400 / 146097 + 1
  let year :=
    if dayNumber ≤ daysBeforeYear guess then guess - 1
    else if daysBeforeYear (guess + 1) < dayNumber then guess + 1
    else guess
  (year, (dayNumber - daysBeforeYear year).toNat)

end Calendar

open Calendar

structure Date where
  year : Int
  month : Nat
  day : Nat
  inCalendar : leastYear ≤ year ∧ year ≤ greatestYear ∧ 1 ≤ day ∧ day ≤ daysInMonth year month
  deriving DecidableEq

namespace Date

def ofYmd? (year : Int) (month day : Nat) : Option Date :=
  if fits : leastYear ≤ year ∧ year ≤ greatestYear ∧ 1 ≤ day ∧ day ≤ daysInMonth year month then
    some ⟨year, month, day, fits⟩
  else none

def ofDayFrom? (year : Int) (month n : Nat) : Nat → Option Date
  | 0 => none
  | fuel + 1 =>
    let days := daysInMonth year month
    if n ≤ days then ofYmd? year month n else ofDayFrom? year (month + 1) (n - days) fuel

def ofDayOfYear? (year : Int) (n : Nat) : Option Date := ofDayFrom? year 1 n 12

def dayOfYear (d : Date) : Nat := daysBefore d.year d.month + d.day

def dayNumber (d : Date) : Int := daysBeforeYear d.year + d.dayOfYear

def weekday (d : Date) : Nat := ((d.dayNumber - 1) % 7).toNat

def quarter (d : Date) : Nat := (d.month + 2) / 3

def ofDayNumber? (dayNumber : Int) : Option Date :=
  let (year, day) := yearAndDay dayNumber
  ofDayOfYear? year day

/-- The week of the year, where weeks begin on the weekday `first` and the days in front of the
first such day are in week 0. -/
def week (d : Date) (first : Nat) : Nat := (d.dayOfYear + 6 - (d.weekday + 7 - first) % 7) / 7

def ofWeek? (year : Int) (first week weekday : Nat) : Option Date := do
  let newYear ← ofYmd? year 1 1
  let firstWeek : Int := 1 + (first + 7 - newYear.weekday) % 7
  let day := firstWeek + 7 * (week - 1) + (weekday + 7 - first) % 7
  if 0 < day then ofDayOfYear? year day.toNat else none

/-- The year and the week that a date counts to where weeks begin on Monday and belong to the year
that has their Thursday. -/
def isoWeek (d : Date) : Int × Nat :=
  let (year, day) := yearAndDay (d.dayNumber - d.weekday + 3)
  (year, (day + 6) / 7)

def ofIsoWeek? (year : Int) (week weekday : Nat) : Option Date :=
  -- January 4 is in the first week.
  let fourth := daysBeforeYear year + 4
  ofDayNumber? (fourth - (fourth - 1) % 7 + 7 * (week - 1) + weekday)

end Date

end FormIntake
