import FormIntake.Proofs.Calendar.Numeral
import FormIntake.Proofs.Calendar.Parts

namespace FormIntake

open Layout

/-- Whether the text of a date-time says all of it. -/
structure DateTime.Expressible (t : DateTime) : Prop where
  leapAtEnd : t.localTime.time.LeapAtEnd
  wholeMinutes : t.offset.WholeMinutes

theorem DateTime.expressible_zero : zero.Expressible :=
  ⟨TimeOfDay.leapAtEnd_midnight, UtcOffset.wholeMinutes_zero⟩

theorem DateTime.expressible_epoch : epoch.Expressible :=
  ⟨TimeOfDay.leapAtEnd_midnight, UtcOffset.wholeMinutes_zero⟩

theorem DateTime.at?_self (t : DateTime) : at? t.localTime t.offset = some t :=
  dif_pos t.inCalendar

theorem DateTime.of_at? {localTime : LocalDateTime} {offset : UtcOffset} {t : DateTime}
    (found : at? localTime offset = some t) : t.localTime = localTime ∧ t.offset = offset := by
  unfold at? at found
  split at found
  · cases found; exact ⟨rfl, rfl⟩
  · cases found

theorem Calendar.daysInMonth_le (year : Int) (month : Nat) : daysInMonth year month ≤ 31 := by
  unfold daysInMonth
  split
  case h_12 => split <;> decide
  all_goals decide

namespace Date

theorem month_mem (d : Date) : 1 ≤ d.month ∧ d.month ≤ 12 := by
  have days : 0 < Calendar.daysInMonth d.year d.month := by have := d.inCalendar; omega
  unfold Calendar.daysInMonth at days
  split at days <;> omega

theorem day_mem (d : Date) : 1 ≤ d.day ∧ d.day ≤ 31 := by
  have bounds := d.inCalendar
  have short := Calendar.daysInMonth_le d.year d.month
  omega

theorem ofYmd?_self (d : Date) : ofYmd? d.year d.month d.day = some d := dif_pos d.inCalendar

end Date

theorem TimeOfDay.of?_self (t : TimeOfDay) :
    of? t.hour t.minute t.second t.nanosecond = some t := dif_pos t.inDay

namespace Layout

theorem readItems_cons {p q : Parts} {cs rest : List Char} {item : Item}
    (first : readItem p cs item = some (q, rest)) (items : List Item) :
    readItems p cs (item :: items) = readItems q rest items := by
  simp [readItems, first]

theorem readItem_literal (p : Parts) (c : Char) (rest : List Char) :
    readItem p (c :: rest) (.literal c) = some (p, rest) := if_pos rfl

theorem readItem_blank {p : Parts} {c : Char} (other : Text.isBlank c = false)
    (rest : List Char) : readItem p (c :: rest) .blank = some (p, c :: rest) := by
  simp [readItem, other]

theorem readItems_append {p q : Parts} {cs rest : List Char} {first : List Item}
    (found : readItems p cs first = some (q, rest)) (second : List Item) :
    readItems p cs (first ++ second) = readItems q rest second := by
  induction first generalizing p cs with
  | nil => cases found; rfl
  | cons item first ih =>
    obtain ⟨⟨between, left⟩, head, found⟩ := Option.bind_eq_some_iff.1 found
    rw [List.cons_append, readItems_cons head, ih found]

theorem Parts.put?_of_bounds {p : Parts} {n : Numeral} {value : Int}
    (inside : (bounds n).1 ≤ value ∧ value ≤ (bounds n).2) : p.put? n value = p.note? n value :=
  if_pos inside

theorem readItem_numeral {p q : Parts} {n : Numeral} {value : Nat} {rest : List Char}
    (two : n.width = some 2) (fits : value < 100) (put : p.put? n value = some q)
    (stops : NoDigitFirst rest) :
    readItem p (Rfc3339.padded 2 value ++ rest) (.numeral n) = some (q, rest) := by
  have inWidth : ∀ bound ∈ n.width, (Rfc3339.padded 2 value).length ≤ bound := by
    rw [two]
    rintro _ ⟨⟩
    exact (Rfc3339.length_padded (by decide) fits).le
  have taken := takeNumeral_append (fun _ => Rfc3339.isDigit_of_mem_padded)
    (Rfc3339.padded_ne_nil 2 value) inWidth stops
  rw [Rfc3339.digitsValue_padded] at taken
  simp only [readItem, Rfc3339.dropBlank_padded_append, taken, Option.bind_eq_bind,
    Option.bind_some, put, Option.pure_def]

end Layout

namespace Rfc3339

theorem dropBlank_writeYear (year : Int) (rest : List Char) :
    (writeYear year ++ rest).dropWhile Text.isBlank = writeYear year ++ rest := by
  unfold writeYear
  split
  · exact dropBlank_padded_append 4 _ rest
  · have sign : Text.isBlank (if year < 0 then '-' else '+') = false := by split <;> decide
    rw [List.cons_append, List.dropWhile_cons_of_neg (by simp [sign])]

theorem takeNumeral_writeYear (year : Int) {rest : List Char} (stops : NoDigitFirst rest) :
    takeNumeral .year (writeYear year ++ rest) = some (year, rest) := by
  unfold writeYear
  split
  · next short =>
    have fits : year.toNat < 10 ^ 4 := by omega
    have inWidth : ∀ bound ∈ Numeral.year.width, (padded 4 year.toNat).length ≤ bound := by
      rintro _ ⟨⟩
      exact (length_padded (by decide) fits).le
    have taken := takeNumeral_append (fun _ => isDigit_of_mem_padded)
      (padded_ne_nil 4 year.toNat) inWidth stops
    have value : ((Decimal.digitsValue (padded 4 year.toNat) : Nat) : Int) = year := by
      rw [digitsValue_padded]; omega
    rw [taken, value]
  · have number : takeNumber none (padded 4 year.natAbs ++ rest) = some (year.natAbs, rest) := by
      rw [takeNumber_append (fun _ => isDigit_of_mem_padded) (padded_ne_nil 4 year.natAbs)
        (by rintro _ ⟨⟩) stops, digitsValue_padded]
    split
    · have value : -(year.natAbs : Int) = year := by omega
      simp only [List.cons_append, takeNumeral, Numeral.hasSign, number, Option.map_some, value]
    · have value : (year.natAbs : Int) = year := by omega
      simp only [List.cons_append, takeNumeral, Numeral.hasSign, number, Option.map_some, value]

def dateParts (d : Date) : Parts :=
  { year := some d.year, month := some d.month, day := some d.day }

theorem readItem_year {p q : Parts} {year : Int} {rest : List Char}
    (put : p.put? .year year = some q) (stops : NoDigitFirst rest) :
    readItem p (writeYear year ++ rest) (.numeral .year) = some (q, rest) := by
  simp only [readItem, dropBlank_writeYear, takeNumeral_writeYear year stops, Option.bind_eq_bind,
    Option.bind_some, put, Option.pure_def]

theorem readItems_writeDate (d : Date) {rest : List Char} (stops : NoDigitFirst rest) :
    readItems {} (writeDate d ++ rest) dateItems = some (dateParts d, rest) := by
  have year := d.inCalendar
  have month := d.month_mem
  have day := d.day_mem
  have hyphen (cs : List Char) : NoDigitFirst ('-' :: cs) := noDigitFirst_cons (by decide)
  have putYear : Parts.put? {} .year d.year = some { year := some d.year } := by
    simp only [Calendar.leastYear, Calendar.greatestYear] at year
    rw [Parts.put?_of_bounds (by simp only [Parts.bounds]; omega)]
    rfl
  have putMonth : Parts.put? { year := some d.year } .month d.month =
      some { year := some d.year, month := some d.month } := by
    rw [Parts.put?_of_bounds (by simp only [Parts.bounds]; omega)]
    rfl
  have putDay : Parts.put? { year := some d.year, month := some d.month } .day d.day =
      some (dateParts d) := by
    rw [Parts.put?_of_bounds (by simp only [Parts.bounds]; omega)]
    rfl
  have readMonth (cs : List Char) (stops : NoDigitFirst cs) :=
    readItem_numeral rfl (show d.month < 100 by omega) putMonth stops
  have readDay := readItem_numeral rfl (show d.day < 100 by omega) putDay stops
  simp only [writeDate, List.append_assoc, List.cons_append]
  unfold dateItems
  rw [readItems_cons (readItem_year putYear (hyphen _)),
    readItems_cons (readItem_blank (by decide) _),
    readItems_cons (readItem_literal _ _ _), readItems_cons (readMonth _ (hyphen _)),
    readItems_cons (readItem_blank (by decide) _), readItems_cons (readItem_literal _ _ _),
    readItems_cons readDay]
  rfl

/-- The parts that the text of a time of day adds to others. A whole second adds no fraction. -/
def addTime (p : Parts) (t : TimeOfDay) : Parts :=
  let leap := 10 ^ 9 ≤ t.nanosecond
  let fraction := if leap then t.nanosecond - 10 ^ 9 else t.nanosecond
  { p with
    half := some (t.hour / 12)
    hourOfHalf := some (t.hour % 12)
    minute := some t.minute
    second := some (if leap then t.second + 1 else t.second)
    nanosecond := if fraction = 0 then none else some fraction }

theorem takeFraction_padded {places value : Nat} {rest : List Char} (positive : 0 < places)
    (few : places ≤ 9) (fits : value < 10 ^ places) (stops : NoDigitFirst rest) :
    takeFraction (padded places value ++ rest) = some (value * 10 ^ (9 - places), rest) := by
  have length := length_padded positive fits
  have number : takeNumber (some 9) (padded places value ++ rest) = some (value, rest) := by
    rw [takeNumber_append (fun _ => isDigit_of_mem_padded) (padded_ne_nil places value)
      (by rintro _ ⟨⟩; exact length.le.trans few) stops, digitsValue_padded]
  have digits : (padded places value ++ rest).takeWhile Char.isDigit = padded places value :=
    takeWhile_digits_append (fun _ => isDigit_of_mem_padded) stops
  simp only [takeFraction, number, digits, length, Nat.min_eq_left few, Option.bind_eq_bind,
    Option.bind_some, Option.pure_def]
  rw [List.drop_left' length]

structure TimeStops (rest : List Char) : Prop where
  digit : NoDigitFirst rest
  point : rest.head? ≠ some '.'
  blank : rest.dropWhile Text.isBlank = rest

theorem noDigitFirst_writeFraction (nanosecond : Nat) {rest : List Char}
    (stops : NoDigitFirst rest) : NoDigitFirst (writeFraction nanosecond ++ rest) := by
  unfold writeFraction
  split
  · exact stops
  · split
    · exact noDigitFirst_cons (by decide)
    · split <;> exact noDigitFirst_cons (by decide)

theorem readItem_fraction {p : Parts} {nanosecond : Nat} {rest : List Char}
    (unset : p.nanosecond = none) (fits : nanosecond < 10 ^ 9) (stops : TimeStops rest) :
    readItem p (writeFraction nanosecond ++ rest) .fraction =
      some ({ p with nanosecond := if nanosecond = 0 then none else some nanosecond }, rest) := by
  have put {places value : Nat} (positive : 0 < places) (few : places ≤ 9)
      (small : value < 10 ^ places) (whole : value * 10 ^ (9 - places) = nanosecond) :
      readItem p ('.' :: padded places value ++ rest) .fraction =
        some ({ p with nanosecond := some nanosecond }, rest) := by
    have taken := takeFraction_padded positive few small stops.digit
    rw [whole] at taken
    simp [readItem, taken, unset, agree?]
  unfold writeFraction
  split
  · rw [← unset, List.nil_append]
    simp only [readItem]
    split
    · exact absurd rfl stops.point
    · rfl
  · split
    · exact put (by decide) (by decide) (by omega) (by omega)
    · split
      · exact put (by decide) (by decide) (by omega) (by omega)
      · exact put (by decide) (by decide) fits (by omega)

theorem readItems_writeTime {p : Parts} (t : TimeOfDay) {rest : List Char} (noHalf : p.half = none)
    (noHour : p.hourOfHalf = none) (noMinute : p.minute = none) (noSecond : p.second = none)
    (noNanosecond : p.nanosecond = none) (stops : TimeStops rest) :
    readItems p (writeTime t ++ rest) timeItems = some (addTime p t, rest) := by
  have bounds := t.inDay
  let second := if 10 ^ 9 ≤ t.nanosecond then t.second + 1 else t.second
  let fraction := if 10 ^ 9 ≤ t.nanosecond then t.nanosecond - 10 ^ 9 else t.nanosecond
  have secondFits : second ≤ 60 := by simp only [second]; split <;> omega
  have fractionFits : fraction < 10 ^ 9 := by simp only [fraction]; split <;> omega
  let hours : Parts := { p with half := some (t.hour / 12), hourOfHalf := some (t.hour % 12) }
  have putHour : p.put? .hour t.hour = some hours := by
    rw [Parts.put?_of_bounds (by simp only [Parts.bounds]; omega)]
    simp [Parts.note?, agree?, noHalf, noHour, hours]
  have putMinute : hours.put? .minute t.minute = some { hours with minute := some t.minute } := by
    rw [Parts.put?_of_bounds (by simp only [Parts.bounds]; omega)]
    simp [Parts.note?, agree?, hours, noMinute]
  have putSecond : Parts.put? { hours with minute := some t.minute } .second second =
      some { hours with minute := some t.minute, second := some second } := by
    rw [Parts.put?_of_bounds (by simp only [Parts.bounds]; omega)]
    simp [Parts.note?, agree?, hours, noSecond]
  have colon (cs : List Char) : NoDigitFirst (':' :: cs) := noDigitFirst_cons (by decide)
  have point : NoDigitFirst (writeFraction fraction ++ rest) :=
    noDigitFirst_writeFraction fraction stops.digit
  have readHour (cs : List Char) (stops : NoDigitFirst cs) :=
    readItem_numeral rfl (show t.hour < 100 by omega) putHour stops
  have readMinute (cs : List Char) (stops : NoDigitFirst cs) :=
    readItem_numeral rfl (show t.minute < 100 by omega) putMinute stops
  have readSecond := readItem_numeral rfl (show second < 100 by omega) putSecond point
  have readFraction := readItem_fraction
    (p := { hours with minute := some t.minute, second := some second }) noNanosecond fractionFits
    stops
  have readBlank (q : Parts) : readItem q rest .blank = some (q, rest) := by
    simp [readItem, stops.blank]
  simp only [writeTime, List.append_assoc, List.cons_append]
  unfold timeItems
  rw [readItems_cons (readHour _ (colon _)), readItems_cons (readItem_blank (by decide) _),
    readItems_cons (readItem_literal _ _ _), readItems_cons (readMinute _ (colon _)),
    readItems_cons (readItem_blank (by decide) _), readItems_cons (readItem_literal _ _ _),
    readItems_cons readSecond, readItems_cons readFraction, readItems_cons (readBlank _)]
  rfl

theorem time?_addTime (p : Parts) {t : TimeOfDay} (leap : t.LeapAtEnd) :
    (addTime p t).time? = some t := by
  have hour : 12 * (t.hour / 12) + t.hour % 12 = t.hour := Nat.div_add_mod _ 12
  have fraction (n : Nat) : (if n = 0 then none else some n).getD 0 = n := by
    split <;> simp [*]
  have self := t.of?_self
  simp only [addTime, Parts.time?, Option.bind_eq_bind, Option.bind_some, Option.getD_some,
    Option.isNone_some, Bool.false_and, Bool.false_eq_true, if_false, fraction, hour]
  by_cases isLeap : 10 ^ 9 ≤ t.nanosecond
  · have second := leap isLeap
    have nanosecond : 10 ^ 9 + (t.nanosecond - 10 ^ 9) = t.nanosecond := by omega
    rw [second] at self
    simp only [if_pos isLeap, second, nanosecond, self, if_true]
  · have notSixty : t.second ≠ 60 := by have := t.inDay; omega
    simp only [if_neg isLeap, if_neg notSixty, self]

theorem date?_dateParts (d : Date) : (dateParts d).date? = some d := by
  have candidate : (dateParts d).candidate? (some d.year) none = some d := Date.ofYmd?_self d
  have admits : (dateParts d).admits d = true := by
    simp [dateParts, Parts.admits, Parts.fitsYear]
  have date : (dateParts d).date? = ((dateParts d).candidate? (some d.year) none).bind
      fun date => if (dateParts d).admits date then some date else none := rfl
  rw [date, candidate, Option.bind_some, if_pos admits]

def allParts (t : LocalDateTime) (seconds : Int) : Parts :=
  { addTime (dateParts t.date) t.time with offset := some seconds }

theorem localDateTime?_allParts {t : LocalDateTime} (leap : t.time.LeapAtEnd) (seconds : Int) :
    (allParts t seconds).localDateTime? = some t := by
  have date : (allParts t seconds).date? = some t.date := date?_dateParts t.date
  have time : (allParts t seconds).time? = some t.time :=
    time?_addTime (dateParts t.date) leap
  simp only [Parts.localDateTime?, date, time]
  rfl

theorem timeStops_cons {c : Char} (digit : c.isDigit = false) (point : c ≠ '.')
    (blank : Text.isBlank c = false) (rest : List Char) : TimeStops (c :: rest) where
  digit := noDigitFirst_cons digit
  point := by simpa using point
  blank := List.dropWhile_cons_of_neg (by simp [blank])

def writeOffset (o : UtcOffset) : List Char := if o.seconds = 0 then ['Z'] else o.write

theorem timeStops_writeOffset (o : UtcOffset) : TimeStops (writeOffset o) := by
  unfold writeOffset
  split
  · exact timeStops_cons (by decide) (by decide) (by decide) []
  · unfold UtcOffset.write
    split <;> exact timeStops_cons (by decide) (by decide) (by decide) _

theorem readZone_sign {sign : Char} (isSign : sign = '+' ∨ sign = '-') (rest : List Char) :
    readZone (sign :: rest) = UtcOffset.readFront (sign :: rest) := by
  rcases isSign with rfl | rfl <;>
    simp [readZone, dropWord?, UtcOffset.readZulu, UtcOffset.readFront]

theorem readZone_writeOffset {o : UtcOffset} (whole : o.WholeMinutes) :
    readZone (writeOffset o) = some (o.seconds, []) := by
  unfold writeOffset
  split
  · next zero => rw [zero]; rfl
  · have front := UtcOffset.readFront_write whole []
    rw [List.append_nil] at front
    have isSign : (if o.seconds < 0 then '-' else '+') = '+' ∨
        (if o.seconds < 0 then '-' else '+') = '-' := by split <;> simp
    exact (readZone_sign isSign _).trans front

theorem read_writeZulu {t : DateTime} (expressible : t.Expressible) :
    read (writeZulu t) = some t := by
  have stops := timeStops_writeOffset t.offset
  have date := readItems_writeDate t.localTime.date
    (noDigitFirst_cons (c := 'T') (by decide)
      : NoDigitFirst ('T' :: (writeTime t.localTime.time ++ writeOffset t.offset)))
  have mark : readItem (dateParts t.localTime.date)
      ('T' :: (writeTime t.localTime.time ++ writeOffset t.offset)) .timeMark =
      some (dateParts t.localTime.date, writeTime t.localTime.time ++ writeOffset t.offset) := rfl
  have time := readItems_writeTime (p := dateParts t.localTime.date) t.localTime.time
    rfl rfl rfl rfl rfl stops
  have zone : readItem (addTime (dateParts t.localTime.date) t.localTime.time)
      (writeOffset t.offset) .zone = some (allParts t.localTime t.offset.seconds, []) := by
    simp only [readItem, stops.blank, readZone_writeOffset expressible.wholeMinutes]
    rfl
  have text : (writeZulu t).toList = writeDate t.localTime.date ++ 'T' ::
      (writeTime t.localTime.time ++ writeOffset t.offset) := by
    simp [writeZulu, writeLocal, writeOffset]
  have items : readItems {} (writeZulu t).toList (directive '+') =
      some (allParts t.localTime t.offset.seconds, []) := by
    rw [text]
    refine (readItems_append date _).trans ((readItems_cons mark _).trans ?_)
    refine (readItems_append time _).trans ((readItems_cons zone _).trans rfl)
  simp only [read, items, localDateTime?_allParts expressible.leapAtEnd, Option.bind_eq_bind,
    Option.bind_some, List.dropWhile_nil, List.isEmpty_nil, if_true]
  have offset : (allParts t.localTime t.offset.seconds).offset = some t.offset.seconds := rfl
  simp only [offset, Option.bind_some, UtcOffset.ofSeconds?_seconds, DateTime.at?_self]

theorem expressible_of_read {text : String} {t : DateTime} (found : read text = some t) :
    t.Expressible := by
  obtain ⟨⟨p, rest⟩, items, found⟩ := Option.bind_eq_some_iff.1 found
  have sound := Parts.sound_empty.readItems items
  dsimp only at found
  split at found
  · obtain ⟨localTime, named, found⟩ := Option.bind_eq_some_iff.1 found
    obtain ⟨seconds, given, found⟩ := Option.bind_eq_some_iff.1 found
    obtain ⟨offset, within, found⟩ := Option.bind_eq_some_iff.1 found
    obtain ⟨sameTime, sameOffset⟩ := DateTime.of_at? found
    constructor
    · rw [sameTime]
      exact sound.leapAtEnd_localDateTime? named
    · unfold UtcOffset.WholeMinutes
      rw [sameOffset, UtcOffset.seconds_of_ofSeconds? within]
      exact sound.offset seconds given
  · cases found

end Rfc3339

end FormIntake
