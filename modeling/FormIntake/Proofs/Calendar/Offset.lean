import FormIntake.Calendar.Offset

namespace FormIntake

open UtcOffset

theorem digit?_digitChar {n : Nat} (digit : n < 10) : Integer.digit? n.digitChar = some n := by
  revert n
  decide

theorem isSeparator_digitChar {n : Nat} (digit : n < 10) : isSeparator n.digitChar = false := by
  revert n
  decide

namespace UtcOffset

def WholeMinutes (o : UtcOffset) : Prop := o.seconds % 60 = 0

theorem readPair_twoDigits {n : Nat} (pair : n < 100) (rest : List Char) :
    readPair (twoDigits n ++ rest) = some (n, rest) := by
  have tens : Integer.digit? (n / 10 % 10).digitChar = some (n / 10 % 10) :=
    digit?_digitChar (by omega)
  have ones : Integer.digit? (n % 10).digitChar = some (n % 10) := digit?_digitChar (by omega)
  have value : 10 * (n / 10 % 10) + n % 10 = n := by omega
  simp [twoDigits, readPair, tens, ones, value]

/-- Two digits for the hours and two for the minutes, with `gap` between them. -/
def clockText (hours : Nat) (gap : List Char) (minutes : Nat) : List Char :=
  twoDigits hours ++ (gap ++ twoDigits minutes)

theorem head?_twoDigits {n : Nat} (rest : List Char) :
    ∀ c ∈ (twoDigits n ++ rest).head?, isSeparator c = false := by
  intro c same
  cases same
  exact isSeparator_digitChar (by omega)

theorem dropWhile_gap {gap rest : List Char} (apart : ∀ c ∈ gap, isSeparator c = true)
    (stops : ∀ c ∈ rest.head?, isSeparator c = false) :
    (gap ++ rest).dropWhile isSeparator = rest := by
  rw [List.dropWhile_append_of_pos apart]
  cases rest with
  | nil => rfl
  | cons c cs => simp [stops c rfl]

theorem readClock_clockText {hours minutes : Nat} {gap : List Char} (hoursFit : hours < 100)
    (minutesFit : minutes < 100) (apart : ∀ c ∈ gap, isSeparator c = true) (rest : List Char) :
    readClock (clockText hours gap minutes ++ rest) =
      if minutes < 60 then some (3600 * hours + 60 * minutes, rest) else none := by
  have text : clockText hours gap minutes ++ rest =
      twoDigits hours ++ (gap ++ (twoDigits minutes ++ rest)) := by simp [clockText]
  simp [text, readClock, readPair_twoDigits hoursFit, dropWhile_gap apart (head?_twoDigits rest),
    readPair_twoDigits minutesFit]

theorem exists_write {o : UtcOffset} (whole : o.WholeMinutes) :
    ∃ hours minutes, hours < 24 ∧ minutes < 60 ∧ 3600 * hours + 60 * minutes = o.seconds.natAbs ∧
      o.write = (if o.seconds < 0 then '-' else '+') :: clockText hours [':'] minutes := by
  have bounds := o.withinDay
  unfold WholeMinutes at whole
  let minutes := (o.seconds.natAbs + 30) / 60
  exact ⟨minutes / 60, minutes % 60, by omega, by omega, by omega, rfl⟩

theorem readFront_write {o : UtcOffset} (whole : o.WholeMinutes) (rest : List Char) :
    readFront (o.write ++ rest) = some (o.seconds, rest) := by
  obtain ⟨hours, minutes, hoursFit, minutesFit, size, text⟩ := exists_write whole
  have colon : ∀ c ∈ [':'], isSeparator c = true := List.forall_mem_singleton.2 rfl
  have clock : readClock (clockText hours [':'] minutes ++ rest) =
      some (o.seconds.natAbs, rest) := by
    rw [readClock_clockText (by omega) (by omega) colon rest, if_pos minutesFit, size]
  rw [text, List.cons_append, readFront, readSigned, clock]
  by_cases negative : o.seconds < 0
  · have value : -(o.seconds.natAbs : Int) = o.seconds := by omega
    rw [if_pos negative]
    exact congrArg (fun seconds => some (seconds, rest)) value
  · have value : (o.seconds.natAbs : Int) = o.seconds := by omega
    rw [if_neg negative]
    exact congrArg (fun seconds => some (seconds, rest)) value

theorem dvd_of_readClock {cs rest : List Char} {seconds : Nat}
    (found : readClock cs = some (seconds, rest)) : seconds % 60 = 0 := by
  simp only [readClock, Option.bind_eq_bind, Option.bind_eq_some_iff] at found
  obtain ⟨⟨hours, _⟩, _, ⟨minutes, _⟩, _, found⟩ := found
  split at found
  · cases found; omega
  · cases found

theorem dvd_of_readHours {cs rest : List Char} {seconds : Nat}
    (found : readHours cs = some (seconds, rest)) : seconds % 60 = 0 := by
  obtain ⟨⟨hours, _⟩, _, found⟩ := Option.bind_eq_some_iff.1 found
  dsimp only at found
  split at found
  · cases found; omega
  · exact dvd_of_readClock found

theorem dvd_of_readSigned {clock : List Char → Option (Nat × List Char)} {cs rest : List Char}
    {seconds : Int} (whole : ∀ {cs rest size}, clock cs = some (size, rest) → size % 60 = 0)
    (found : readSigned clock cs = some (seconds, rest)) : seconds % 60 = 0 := by
  cases cs with
  | nil => cases found
  | cons c cs =>
    obtain ⟨⟨size, _⟩, clocked, found⟩ := Option.bind_eq_some_iff.1 found
    have sizeWhole := whole clocked
    dsimp only at found
    split at found
    · cases found; omega
    · split at found
      · cases found; omega
      · cases found

theorem dvd_of_readFront {cs rest : List Char} {seconds : Int}
    (found : readFront cs = some (seconds, rest)) : seconds % 60 = 0 :=
  dvd_of_readSigned dvd_of_readClock found

theorem dvd_of_readZulu {clock : List Char → Option (Nat × List Char)} {cs rest : List Char}
    {seconds : Int} (whole : ∀ {cs rest size}, clock cs = some (size, rest) → size % 60 = 0)
    (found : readZulu clock cs = some (seconds, rest)) : seconds % 60 = 0 := by
  unfold readZulu at found
  split at found
  · cases found; rfl
  · cases found; rfl
  · exact dvd_of_readSigned whole found

theorem seconds_of_ofSeconds? {seconds : Int} {o : UtcOffset}
    (found : ofSeconds? seconds = some o) : o.seconds = seconds := by
  unfold ofSeconds? at found
  split at found
  · cases found; rfl
  · cases found

theorem ofSeconds?_seconds (o : UtcOffset) : ofSeconds? o.seconds = some o := by
  simp [ofSeconds?, o.withinDay]

theorem wholeMinutes_zero : zero.WholeMinutes := rfl

theorem wholeMinutes_of_ofZone? {zone : String} {o : UtcOffset} (found : ofZone? zone = some o) :
    o.WholeMinutes := by
  simp only [ofZone?] at found
  split at found
  · cases found; exact wholeMinutes_zero
  · unfold read at found
    split at found
    · next front =>
      unfold WholeMinutes
      rw [seconds_of_ofSeconds? found]
      exact dvd_of_readFront front
    · cases found

end UtcOffset

end FormIntake
