import FormIntake.Field.Kind
import FormIntake.Proofs.Calendar.Separation

namespace FormIntake

namespace Calendar

theorem daysBefore_le (year : Int) (month : Nat) : daysBefore year month ≤ 31 * (month - 1) := by
  have sum (months : List Nat) (days : Nat) :
      months.foldl (fun days m => days + daysInMonth year (m + 1)) days ≤
        days + 31 * months.length := by
    induction months generalizing days with
    | nil => simp
    | cons m months ih =>
      have short := daysInMonth_le year (m + 1)
      have later := ih (days + daysInMonth year (m + 1))
      rw [List.foldl_cons, List.length_cons]
      omega
  have all := sum (List.range (month - 1)) 0
  rw [List.length_range] at all
  rw [daysBefore]
  omega

end Calendar

namespace DateTime

theorem exists_at? {t : LocalDateTime} (years : t.HasFourDigits) (offset : UtcOffset) :
    ∃ time : DateTime, time.localTime = t ∧ time.offset = offset ∧ at? t offset = some time := by
  have month := t.date.month_mem
  have day := t.date.day_mem
  have clock := t.time.inDay
  have within := offset.withinDay
  have before := Calendar.daysBefore_le t.date.year t.date.month
  obtain ⟨early, late⟩ := years
  -- Years of four digits are far from both ends of the calendar.
  have fits : LocalDateTime.leastSecond ≤ t.secondNumber - offset.seconds ∧
      t.secondNumber - offset.seconds ≤ LocalDateTime.greatestSecond := by
    simp only [LocalDateTime.leastSecond, LocalDateTime.greatestSecond, LocalDateTime.secondNumber,
      Date.dayNumber, Date.dayOfYear, Calendar.daysBeforeYear, Calendar.leastYear,
      Calendar.greatestYear, TimeOfDay.secondOfDay]
    omega
  exact ⟨⟨t, offset, fits⟩, rfl, rfl, dif_pos fits⟩

end DateTime

namespace Kind

open Layout

variable {s : Settings} {offset : UtcOffset} {layout text : String} {t : LocalDateTime}
  {known : List Numeral}

theorem inZone_of_zone (zone : s.offset = .ok offset) (filled : text ≠ "")
    (read : UtcOffset → Option DateTime) : inZone s text read = read offset := by
  rw [inZone, if_neg filled, zone]
  rfl

theorem ne_empty_of_written {n : Numeral} (numeral : .numeral n ∈ items layout.toList)
    (written : Written layout t text) : text ≠ "" := by
  intro empty
  have filled : items layout.toList ≠ [] := List.ne_nil_of_mem numeral
  exact written.ne_nil filled (congrArg String.toList empty)

def dateNumerals : List Numeral := [.year, .month, .day]

def clockNumerals : List Numeral := [.hour, .minute]

variable {own others : List String}

theorem date?_of_told (told : Told own others layout t text known)
    (dates : ∀ n ∈ dateNumerals, .numeral n ∈ items layout.toList) :
    (t.partsOf known).date? = some t.date := by
  apply date?_partsOf
  · exact told.all _ (dates .year (by decide))
  · exact told.all _ (dates .month (by decide))
  · exact told.all _ (dates .day (by decide))

theorem readDate_of_told (told : Told own others layout t text known)
    (dates : ∀ n ∈ dateNumerals, .numeral n ∈ items layout.toList) (offset : UtcOffset) :
    readDate own offset text = DateTime.at? ⟨t.date, .midnight⟩ offset := by
  have first := told.first (date?_of_told told dates)
  simp only [readDate, Layout.readDate, first, Option.bind_eq_bind, Option.bind_some]

theorem readDateTime_of_told (told : Told own others layout t text known)
    (dates : ∀ n ∈ dateNumerals, .numeral n ∈ items layout.toList)
    (clock : ∀ n ∈ clockNumerals, .numeral n ∈ items layout.toList)
    (second : .numeral .second ∈ items layout.toList ∨ t.time.second = 0)
    (whole : t.time.nanosecond = 0) (offset : UtcOffset) :
    readDateTime own offset text = DateTime.at? t offset := by
  have date := date?_of_told told dates
  have time : (t.partsOf known).time? = some t.time := by
    apply time?_partsOf
    · exact told.all _ (clock .hour (by decide))
    · exact told.all _ (clock .minute (by decide))
    · exact second.imp_left (told.all _)
    · exact whole
  have first := told.first (localDateTime?_partsOf date time)
  simp only [readDateTime, Layout.readDateTime, first, Option.bind_eq_bind, Option.bind_some]

theorem readDate_of_others (told : Told own others layout t text known) (offset : UtcOffset) :
    readDate others offset text = none := by
  have unread := told.none_of_others (·.date?)
  simp only [readDate, Layout.readDate, unread, Option.bind_eq_bind, Option.bind_none]

theorem readDateTime_of_others (told : Told own others layout t text known) (offset : UtcOffset) :
    readDateTime others offset text = none := by
  have unread := told.none_of_others (·.localDateTime?)
  simp only [readDateTime, Layout.readDateTime, unread, Option.bind_eq_bind, Option.bind_none]

theorem numerals_defaultDateLayouts :
    ∀ layout ∈ Settings.defaultDateLayouts, ∀ n ∈ dateNumerals,
      .numeral n ∈ items layout.toList := by
  decide

theorem numerals_defaultDateTimeLayouts :
    ∀ layout ∈ Settings.defaultDateTimeLayouts,
      (∀ n ∈ dateNumerals, .numeral n ∈ items layout.toList) ∧
        ∀ n ∈ clockNumerals, .numeral n ∈ items layout.toList := by
  decide

theorem convert_of_written_date (dates : s.dateLayouts = Settings.defaultDateLayouts)
    (dateTimes : s.dateTimeLayouts = Settings.defaultDateTimeLayouts) (zone : s.offset = .ok offset)
    {d : Date} (early : 1000 ≤ d.year) (late : d.year ≤ 9999)
    (member : layout ∈ Settings.defaultDateLayouts) (written : Written layout ⟨d, .midnight⟩ text) :
    ∃ time : DateTime, time.localTime = ⟨d, .midnight⟩ ∧ time.offset = offset ∧
      date.convert text s = some (.dateTime time) ∧ dateTime.convert text s = none ∧
      dateFlex.convert text s = some (.dateTime time) := by
  have years : LocalDateTime.HasFourDigits ⟨d, .midnight⟩ := ⟨early, late⟩
  have numerals := numerals_defaultDateLayouts layout member
  have filled := ne_empty_of_written (numerals .year (by decide)) written
  obtain ⟨known, told⟩ := exists_told isSeparate_defaultDateLayouts member years written
  obtain ⟨time, sameTime, sameOffset, dated⟩ := DateTime.exists_at? years offset
  have asDate := readDate_of_told told numerals offset
  have asDateTime := readDateTime_of_others told offset
  rw [dated] at asDate
  refine ⟨time, sameTime, sameOffset, ?_, ?_, ?_⟩
  · simp only [convert, inZone_of_zone zone filled, dates, asDate, Option.map_some]
  · simp only [convert, inZone_of_zone zone filled, dateTimes, asDateTime, Option.map_none]
  · simp only [convert, inZone_of_zone zone filled, dates, asDate, Option.some_or, Option.map_some]

theorem convert_of_written_dateTime (dates : s.dateLayouts = Settings.defaultDateLayouts)
    (dateTimes : s.dateTimeLayouts = Settings.defaultDateTimeLayouts) (zone : s.offset = .ok offset)
    (early : 1000 ≤ t.date.year) (late : t.date.year ≤ 9999) (whole : t.time.nanosecond = 0)
    (member : layout ∈ Settings.defaultDateTimeLayouts)
    (second : .numeral .second ∈ items layout.toList ∨ t.time.second = 0)
    (written : Written layout t text) :
    ∃ time : DateTime, time.localTime = t ∧ time.offset = offset ∧
      date.convert text s = none ∧ dateTime.convert text s = some (.dateTime time) ∧
      dateFlex.convert text s = some (.dateTime time) := by
  have years : t.HasFourDigits := ⟨early, late⟩
  obtain ⟨numerals, clock⟩ := numerals_defaultDateTimeLayouts layout member
  have filled := ne_empty_of_written (numerals .year (by decide)) written
  obtain ⟨known, told⟩ := exists_told isSeparate_defaultDateTimeLayouts member years written
  obtain ⟨time, sameTime, sameOffset, dated⟩ := DateTime.exists_at? years offset
  have asDate := readDate_of_others told offset
  have asDateTime := readDateTime_of_told told numerals clock second whole offset
  rw [dated] at asDateTime
  refine ⟨time, sameTime, sameOffset, ?_, ?_, ?_⟩
  · simp only [convert, inZone_of_zone zone filled, dates, asDate, Option.map_none]
  · simp only [convert, inZone_of_zone zone filled, dateTimes, asDateTime, Option.map_some]
  · simp only [convert, inZone_of_zone zone filled, dates, dateTimes, asDate, asDateTime,
      Option.none_or, Option.map_some]

/-- What is written in a default layout is read as itself by the types that it is for, and refused
by the other. -/
theorem convert_written (dates : s.dateLayouts = Settings.defaultDateLayouts)
    (dateTimes : s.dateTimeLayouts = Settings.defaultDateTimeLayouts)
    (zone : s.offset = .ok offset) :
    (∀ (d : Date) (layout text : String), 1000 ≤ d.year → d.year ≤ 9999 →
      layout ∈ Settings.defaultDateLayouts → Written layout ⟨d, .midnight⟩ text →
      ∃ time : DateTime, time.localTime = ⟨d, .midnight⟩ ∧ time.offset = offset ∧
        date.convert text s = some (.dateTime time) ∧ dateTime.convert text s = none ∧
        dateFlex.convert text s = some (.dateTime time)) ∧
    (∀ (t : LocalDateTime) (layout text : String), 1000 ≤ t.date.year → t.date.year ≤ 9999 →
      t.time.nanosecond = 0 → layout ∈ Settings.defaultDateTimeLayouts →
      (.numeral .second ∈ items layout.toList ∨ t.time.second = 0) → Written layout t text →
      ∃ time : DateTime, time.localTime = t ∧ time.offset = offset ∧
        date.convert text s = none ∧ dateTime.convert text s = some (.dateTime time) ∧
        dateFlex.convert text s = some (.dateTime time)) := by
  constructor
  · intro d layout text early late member written
    exact convert_of_written_date dates dateTimes zone early late member written
  · intro t layout text early late whole member second written
    exact convert_of_written_dateTime dates dateTimes zone early late whole member second written

/-- What is written in a default layout is read as itself by the types that it is for, and refused
by the other. -/
theorem convert_written_standard :
    date.convert "5.2.2017" .standard =
        some (.dateTime ⟨⟨⟨2017, 2, 5, by decide⟩, .midnight⟩, ⟨3600, by decide⟩, by decide⟩) ∧
      dateTime.convert "5.2.2017" .standard = none ∧
      date.convert "20170226103059" .standard = none ∧
      dateTime.convert "20170226103059" .standard =
        some (.dateTime ⟨⟨⟨2017, 2, 26, by decide⟩, ⟨10, 30, 59, 0, by decide⟩⟩, ⟨3600, by decide⟩,
          by decide⟩) := by
  have zone : Settings.standard.offset = .ok ⟨3600, by decide⟩ := by rfl
  have apart := convert_written (s := .standard) rfl rfl zone
  let d : LocalDateTime := ⟨⟨2017, 2, 5, by decide⟩, .midnight⟩
  let t : LocalDateTime := ⟨⟨2017, 2, 26, by decide⟩, ⟨10, 30, 59, 0, by decide⟩⟩
  have writtenDate : Written "%d.%m.%Y" d "5.2.2017" := by
    have shows : Shows d true
        [.numeral .day, .literal '.', .numeral .month, .literal '.', .numeral .year]
        (Nat.toDigits 10 5 ++ '.' :: (Nat.toDigits 10 2 ++ '.' :: (Rfc3339.padded 4 2017 ++ []))) :=
      .bare rfl rfl (.literal (.bare rfl rfl (.literal (.padded rfl rfl .done))))
    exact shows
  have writtenTime : Written "%Y%m%d%H%M%S" t "20170226103059" := by
    have shows : Shows t false
        [.numeral .year, .numeral .month, .numeral .day, .numeral .hour, .numeral .minute,
          .numeral .second]
        (Rfc3339.padded 4 2017 ++ (Rfc3339.padded 2 2 ++ (Rfc3339.padded 2 26 ++
          (Rfc3339.padded 2 10 ++ (Rfc3339.padded 2 30 ++ (Rfc3339.padded 2 59 ++ [])))))) :=
      .padded rfl rfl (.padded rfl rfl (.padded rfl rfl (.padded rfl rfl (.padded rfl rfl
        (.padded rfl rfl .done)))))
    exact shows
  obtain ⟨⟨_, _, _⟩, rfl, rfl, asDate, noDateTime, _⟩ :=
    apart.1 _ _ _ (by decide) (by decide) (by decide) writtenDate
  obtain ⟨⟨_, _, _⟩, rfl, rfl, noDate, asDateTime, _⟩ :=
    apart.2 _ _ _ (by decide) (by decide) rfl (by decide) (.inl (by decide)) writtenTime
  exact ⟨asDate, noDateTime, noDate, asDateTime⟩

end Kind

end FormIntake
