import FormIntake.Calendar.DateTime
import FormIntake.Number.Decimal

/-!
Layouts of dates and times: texts in which a percent sign and a letter stand for a part of a date,
white space stands for any amount of it, and all else for itself. Reading collects the parts that a
text gives; a part given twice has to be the same both times, and the parts together have to name
one date and one time.
-/

namespace FormIntake

namespace Layout

inductive Numeral
  | year | century | yearOfCentury | quarter | month | day | dayOfYear
  /-- Weeks that begin on Sunday or on Monday; the days in front of the first one are in week 0. -/
  | sundayWeek | mondayWeek
  | isoYear | isoYearOfCentury | isoWeek
  | dayFromSunday | dayFromMonday
  | hour | hourOfHalf | minute | second | nanosecond
  | timestamp
  deriving DecidableEq, Repr

def Numeral.width : Numeral → Option Nat
  | year | isoYear => some 4
  | dayOfYear => some 3
  | quarter | dayFromSunday | dayFromMonday => some 1
  | nanosecond => some 9
  | timestamp => none
  | _ => some 2

def Numeral.hasSign : Numeral → Bool
  | year | isoYear => true
  | _ => false

inductive Item
  | literal (c : Char)
  | blank
  | numeral (n : Numeral)
  | month (long : Bool)
  | weekday (long : Bool)
  | half
  | offset
  | shortOffset
  | zone
  | zoneName
  | timeMark
  | fraction
  | decimals (count : Fin 10)
  | unknown
  deriving DecidableEq, Repr

def clockItems : List Item :=
  [.numeral .hour, .literal ':', .numeral .minute, .literal ':', .numeral .second]

def dateItems : List Item :=
  [.numeral .year, .blank, .literal '-', .numeral .month, .blank, .literal '-', .numeral .day]

def timeItems : List Item :=
  [.numeral .hour, .blank, .literal ':', .numeral .minute, .blank, .literal ':', .numeral .second,
    .fraction, .blank]

def directive : Char → List Item
  | 'Y' => [.numeral .year]
  | 'C' => [.numeral .century]
  | 'y' => [.numeral .yearOfCentury]
  | 'q' => [.numeral .quarter]
  | 'm' => [.numeral .month]
  | 'd' | 'e' => [.numeral .day]
  | 'j' => [.numeral .dayOfYear]
  | 'U' => [.numeral .sundayWeek]
  | 'W' => [.numeral .mondayWeek]
  | 'G' => [.numeral .isoYear]
  | 'g' => [.numeral .isoYearOfCentury]
  | 'V' => [.numeral .isoWeek]
  | 'w' => [.numeral .dayFromSunday]
  | 'u' => [.numeral .dayFromMonday]
  | 'H' | 'k' => [.numeral .hour]
  | 'I' | 'l' => [.numeral .hourOfHalf]
  | 'M' => [.numeral .minute]
  | 'S' => [.numeral .second]
  | 'f' => [.numeral .nanosecond]
  | 's' => [.numeral .timestamp]
  | 'b' | 'h' => [.month false]
  | 'B' => [.month true]
  | 'a' => [.weekday false]
  | 'A' => [.weekday true]
  | 'p' | 'P' => [.half]
  | 'z' => [.offset]
  | 'Z' => [.zoneName]
  | 'F' => [.numeral .year, .literal '-', .numeral .month, .literal '-', .numeral .day]
  | 'D' | 'x' =>
    [.numeral .month, .literal '/', .numeral .day, .literal '/', .numeral .yearOfCentury]
  | 'v' => [.numeral .day, .literal '-', .month false, .literal '-', .numeral .year]
  | 'R' => [.numeral .hour, .literal ':', .numeral .minute]
  | 'T' | 'X' => clockItems
  | 'r' =>
    [.numeral .hourOfHalf, .literal ':', .numeral .minute, .literal ':', .numeral .second, .blank,
      .half]
  | 'c' =>
    [.weekday false, .blank, .month false, .blank, .numeral .day, .blank] ++ clockItems ++
      [.blank, .numeral .year]
  | '+' => dateItems ++ .timeMark :: timeItems ++ [.zone]
  | 'n' | 't' => [.blank]
  | '%' => [.literal '%']
  | _ => [.unknown]

def paddedDirective (c : Char) : Item :=
  match directive c with
  | [.numeral n] => .numeral n
  | _ => .unknown

def places? : Char → Option (Fin 10)
  | '3' => some 3
  | '6' => some 6
  | '9' => some 9
  | _ => none

def items : List Char → List Item
  | '%' :: '.' :: 'f' :: rest => .fraction :: items rest
  | '%' :: '.' :: c :: 'f' :: rest =>
    match places? c with
    | some _ => .fraction :: items rest
    | none => [.unknown]
  | '%' :: ':' :: 'z' :: rest | '%' :: ':' :: ':' :: 'z' :: rest
  | '%' :: ':' :: ':' :: ':' :: 'z' :: rest => .offset :: items rest
  | '%' :: '#' :: 'z' :: rest => .shortOffset :: items rest
  | '%' :: '-' :: c :: rest | '%' :: '_' :: c :: rest | '%' :: '0' :: c :: rest =>
    paddedDirective c :: items rest
  | '%' :: c :: 'f' :: rest =>
    match places? c with
    | some count => .decimals count :: items rest
    | none => directive c ++ items ('f' :: rest)
  | '%' :: c :: rest => directive c ++ items rest
  | '%' :: [] => [.unknown]
  | c :: rest => (if Text.isBlank c then .blank else .literal c) :: items rest
  | [] => []

structure Parts where
  year : Option Int := none
  century : Option Int := none
  yearOfCentury : Option Int := none
  quarter : Option Nat := none
  month : Option Nat := none
  day : Option Nat := none
  dayOfYear : Option Nat := none
  sundayWeek : Option Nat := none
  mondayWeek : Option Nat := none
  isoYear : Option Int := none
  isoYearOfCentury : Option Int := none
  isoWeek : Option Nat := none
  weekday : Option Nat := none
  half : Option Nat := none
  hourOfHalf : Option Nat := none
  minute : Option Nat := none
  second : Option Nat := none
  nanosecond : Option Nat := none
  timestamp : Option Int := none
  offset : Option Int := none
  deriving DecidableEq

def agree? {α : Type} [DecidableEq α] (old : Option α) (new : α) : Option (Option α) :=
  match old with
  | none => some (some new)
  | some value => if value = new then some old else none

namespace Parts

def bounds : Numeral → Int × Int
  | .year | .isoYear => (-2 ^ 31, 2 ^ 31 - 1)
  | .century | .yearOfCentury | .isoYearOfCentury => (0, 99)
  | .quarter => (1, 4)
  | .month => (1, 12)
  | .day => (1, 31)
  | .dayOfYear => (1, 366)
  | .sundayWeek | .mondayWeek => (0, 53)
  | .isoWeek => (1, 53)
  | .dayFromSunday => (0, 6)
  | .dayFromMonday => (1, 7)
  | .hour => (0, 23)
  | .hourOfHalf => (1, 12)
  | .minute => (0, 59)
  | .second => (0, 60)
  | .nanosecond => (0, 10 ^ 9 - 1)
  | .timestamp => (-2 ^ 63, 2 ^ 63 - 1)

def note? (p : Parts) (n : Numeral) (value : Int) : Option Parts :=
  let natural := value.toNat
  match n with
  | .year => do return { p with year := ← agree? p.year value }
  | .century => do return { p with century := ← agree? p.century value }
  | .yearOfCentury => do return { p with yearOfCentury := ← agree? p.yearOfCentury value }
  | .quarter => do return { p with quarter := ← agree? p.quarter natural }
  | .month => do return { p with month := ← agree? p.month natural }
  | .day => do return { p with day := ← agree? p.day natural }
  | .dayOfYear => do return { p with dayOfYear := ← agree? p.dayOfYear natural }
  | .sundayWeek => do return { p with sundayWeek := ← agree? p.sundayWeek natural }
  | .mondayWeek => do return { p with mondayWeek := ← agree? p.mondayWeek natural }
  | .isoYear => do return { p with isoYear := ← agree? p.isoYear value }
  | .isoYearOfCentury => do return { p with isoYearOfCentury := ← agree? p.isoYearOfCentury value }
  | .isoWeek => do return { p with isoWeek := ← agree? p.isoWeek natural }
  | .dayFromSunday => do return { p with weekday := ← agree? p.weekday ((natural + 6) % 7) }
  | .dayFromMonday => do return { p with weekday := ← agree? p.weekday (natural - 1) }
  | .hour =>
    do return { p with
      half := ← agree? p.half (natural / 12)
      hourOfHalf := ← agree? p.hourOfHalf (natural % 12) }
  | .hourOfHalf => do return { p with hourOfHalf := ← agree? p.hourOfHalf (natural % 12) }
  | .minute => do return { p with minute := ← agree? p.minute natural }
  | .second => do return { p with second := ← agree? p.second natural }
  | .nanosecond => do return { p with nanosecond := ← agree? p.nanosecond natural }
  | .timestamp => do return { p with timestamp := ← agree? p.timestamp value }

def put? (p : Parts) (n : Numeral) (value : Int) : Option Parts :=
  if (bounds n).1 ≤ value ∧ value ≤ (bounds n).2 then p.note? n value else none

/-- The year that year, century and year of the century name together, if they name any. Without a
century, the years up to 69 are those of 2000, and the others those of 1900. -/
def resolveYear? (year century yearOfCentury : Option Int) : Option (Option Int) :=
  match year, century, yearOfCentury with
  | year, none, none => some year
  | some year, century, yearOfCentury =>
    if 0 ≤ year ∧ century.getD (year / 100) = year / 100 ∧
        yearOfCentury.getD (year % 100) = year % 100 then
      some (some year)
    else none
  | none, some century, some yearOfCentury => some (some (100 * century + yearOfCentury))
  | none, none, some yearOfCentury =>
    some (some (if yearOfCentury < 70 then 2000 + yearOfCentury else 1900 + yearOfCentury))
  | none, some _, none => none

def fitsYear (given : Option Int) (year value : Int) : Bool :=
  given.isNone || 0 ≤ year && given = some value

def admits (p : Parts) (d : Date) : Bool :=
  p.year.getD d.year = d.year && fitsYear p.century d.year (d.year / 100) &&
    fitsYear p.yearOfCentury d.year (d.year % 100) && p.quarter.getD d.quarter = d.quarter &&
    p.month.getD d.month = d.month && p.day.getD d.day = d.day &&
    p.dayOfYear.getD d.dayOfYear = d.dayOfYear && p.weekday.getD d.weekday = d.weekday &&
    p.sundayWeek.getD (d.week 6) = d.week 6 && p.mondayWeek.getD (d.week 0) = d.week 0 &&
    p.isoYear.getD d.isoWeek.1 = d.isoWeek.1 && p.isoWeek.getD d.isoWeek.2 = d.isoWeek.2 &&
    fitsYear p.isoYearOfCentury d.isoWeek.1 (d.isoWeek.1 % 100)

/-- The date that the first parts name that are enough to name one: month and day, the day of the
year, a week and a weekday. -/
def candidate? (p : Parts) (year isoYear : Option Int) : Option Date :=
  match year, p.month, p.day, p.dayOfYear, p.sundayWeek, p.mondayWeek, p.weekday with
  | some year, some month, some day, _, _, _, _ => Date.ofYmd? year month day
  | some year, _, _, some dayOfYear, _, _, _ => Date.ofDayOfYear? year dayOfYear
  | some year, _, _, _, some week, _, some weekday => Date.ofWeek? year 6 week weekday
  | some year, _, _, _, _, some week, some weekday => Date.ofWeek? year 0 week weekday
  | _, _, _, _, _, _, some weekday =>
    match isoYear, p.isoWeek with
    | some year, some week => Date.ofIsoWeek? year week weekday
    | _, _ => none
  | _, _, _, _, _, _, _ => none

def date? (p : Parts) : Option Date := do
  let year ← resolveYear? p.year p.century p.yearOfCentury
  let isoYear ← resolveYear? p.isoYear none p.isoYearOfCentury
  let date ← p.candidate? year isoYear
  if p.admits date then some date else none

/-- The time that the parts name; second 60 is a leap second, and only a second has fractions. -/
def time? (p : Parts) : Option TimeOfDay := do
  let half ← p.half
  let hourOfHalf ← p.hourOfHalf
  let minute ← p.minute
  let second := p.second.getD 0
  let nanosecond := p.nanosecond.getD 0
  if p.second.isNone && p.nanosecond.isSome then none
  else if second = 60 then TimeOfDay.of? (12 * half + hourOfHalf) minute 59 (10 ^ 9 + nanosecond)
  else TimeOfDay.of? (12 * half + hourOfHalf) minute second nanosecond

def admitsInstant (p : Parts) (t : LocalDateTime) : Bool :=
  let timestamp := t.secondNumber - DateTime.epoch.localTime.secondNumber
  match p.timestamp with
  | none => true
  | some given =>
    given = timestamp || 10 ^ 9 ≤ t.time.nanosecond && given = timestamp + 1

/-- The second that a timestamp stands for. A leap second has no timestamp of its own, but that of
the second in front of it or of the one behind. -/
def instant? (p : Parts) (timestamp : Int) : Option Int :=
  if p.second = some 60 then
    if timestamp % 60 = 59 then some timestamp
    else if timestamp % 60 = 0 then some (timestamp - 1)
    else none
  else some timestamp

def complete? (p : Parts) (instant : Int) : Option Parts := do
  let (year, day) :=
    Calendar.yearAndDay (instant / 86400 + DateTime.epoch.localTime.date.dayNumber)
  let p ← p.put? .year year
  let p ← p.put? .dayOfYear day
  let p ← p.put? .hour (instant / 3600 % 24)
  let p ← p.put? .minute (instant / 60 % 60)
  if p.second = some 60 then some p else p.put? .second (instant % 60)

def localDateTime? (p : Parts) : Option LocalDateTime :=
  match p.date?, p.time? with
  | some date, some time => if p.admitsInstant ⟨date, time⟩ then some ⟨date, time⟩ else none
  | _, _ => do
    let p ← p.complete? (← p.instant? (← p.timestamp))
    return ⟨← p.date?, ← p.time?⟩

end Parts

/-- At least one digit and at most `width` of them, where a width is given. -/
def takeNumber (width : Option Nat) (cs : List Char) : Option (Nat × List Char) :=
  let digits := cs.takeWhile Char.isDigit
  let taken :=
    match width with
    | some width => digits.take width
    | none => digits
  if taken.isEmpty then none else some (Decimal.digitsValue taken, cs.drop taken.length)

def takeNumeral (n : Numeral) (cs : List Char) : Option (Int × List Char) :=
  match n.hasSign, cs with
  | true, '-' :: rest => (takeNumber none rest).map fun (value, rest) => (-value, rest)
  | true, '+' :: rest => (takeNumber none rest).map fun (value, rest) => (value, rest)
  | _, cs => (takeNumber n.width cs).map fun (value, rest) => (value, rest)

def dropWord? (word : String) (cs : List Char) : Option (List Char) :=
  let front := cs.take word.toList.length
  if front.map Char.toLower = word.toList then some (cs.drop word.toList.length) else none

def monthNames : List (String × String) :=
  [("jan", "uary"), ("feb", "ruary"), ("mar", "ch"), ("apr", "il"), ("may", ""), ("jun", "e"),
    ("jul", "y"), ("aug", "ust"), ("sep", "tember"), ("oct", "ober"), ("nov", "ember"),
    ("dec", "ember")]

def weekdayNames : List (String × String) :=
  [("mon", "day"), ("tue", "sday"), ("wed", "nesday"), ("thu", "rsday"), ("fri", "day"),
    ("sat", "urday"), ("sun", "day")]

def takeName (names : List (String × String)) (long : Bool) (cs : List Char) :
    Option (Nat × List Char) :=
  names.zipIdx.findSome? fun ((short, ending), place) => do
    let rest ← dropWord? short cs
    return (place, if long then (dropWord? ending rest).getD rest else rest)

def takeFraction (cs : List Char) : Option (Nat × List Char) := do
  let (value, _) ← takeNumber (some 9) cs
  let digits := cs.takeWhile Char.isDigit
  return (value * 10 ^ (9 - min digits.length 9), cs.drop digits.length)

def takeDecimals (count : Nat) (cs : List Char) : Option (Nat × List Char) :=
  let digits := cs.take count
  if digits.length = count ∧ digits.all Char.isDigit then
    some (Decimal.digitsValue digits * 10 ^ (9 - count), cs.drop count)
  else none

def readZone (cs : List Char) : Option (Int × List Char) :=
  match dropWord? "utc" cs with
  | some rest => some (0, rest)
  | none => UtcOffset.readZulu UtcOffset.readClock cs

def noteOffset? (p : Parts) (found : Option (Int × List Char)) : Option (Parts × List Char) := do
  let (seconds, rest) ← found
  return ({ p with offset := ← agree? p.offset seconds }, rest)

def readItem (p : Parts) (cs : List Char) : Item → Option (Parts × List Char)
  | .literal c =>
    match cs with
    | d :: rest => if d = c then some (p, rest) else none
    | [] => none
  | .blank => some (p, cs.dropWhile Text.isBlank)
  | .numeral n => do
    let (value, rest) ← takeNumeral n (cs.dropWhile Text.isBlank)
    return (← p.put? n value, rest)
  | .month long => do
    let (place, rest) ← takeName monthNames long cs
    return ({ p with month := ← agree? p.month (place + 1) }, rest)
  | .weekday long => do
    let (place, rest) ← takeName weekdayNames long cs
    return ({ p with weekday := ← agree? p.weekday place }, rest)
  | .half => do
    let (place, rest) ← takeName [("am", ""), ("pm", "")] false cs
    return ({ p with half := ← agree? p.half place }, rest)
  | .offset => noteOffset? p (UtcOffset.readFront (cs.dropWhile Text.isBlank))
  | .shortOffset =>
    noteOffset? p (UtcOffset.readZulu UtcOffset.readHours (cs.dropWhile Text.isBlank))
  | .zone => noteOffset? p (readZone (cs.dropWhile Text.isBlank))
  | .zoneName => some (p, cs.dropWhile fun c => !Text.isBlank c)
  | .timeMark =>
    match cs with
    | c :: rest => if c = 'T' ∨ c = 't' ∨ c = ' ' then some (p, rest) else none
    | [] => none
  | .fraction =>
    match cs with
    | '.' :: rest => do
      let (value, rest) ← takeFraction rest
      return ({ p with nanosecond := ← agree? p.nanosecond value }, rest)
    | cs => some (p, cs)
  | .decimals count => do
    let (value, rest) ← takeDecimals count cs
    return ({ p with nanosecond := ← agree? p.nanosecond value }, rest)
  | .unknown => none

def readItems (p : Parts) (cs : List Char) : List Item → Option (Parts × List Char)
  | [] => some (p, cs)
  | item :: rest => do
    let (p, cs) ← readItem p cs item
    readItems p cs rest

def read (layout text : String) : Option Parts :=
  match readItems {} text.toList (items layout.toList) with
  | some (p, []) => some p
  | _ => none

def readDate (layout text : String) : Option Date := (read layout text).bind (·.date?)

def readDateTime (layout text : String) : Option LocalDateTime :=
  (read layout text).bind (·.localDateTime?)

end Layout

end FormIntake
