import FormIntake.Proofs.Calendar.Offset
import FormIntake.Proofs.Number.Integer
import FormIntake.Proofs.Text.Blank
import FormIntake.Settings

namespace FormIntake

namespace UtcOffset

inductive Sign : Char → Int → Prop
  | plus : Sign '+' 1
  | minus : Sign '-' (-1)
  | longMinus : Sign '\u2212' (-1)

inductive Universal : List Char → Prop
  | utc {u t c : Char} (first : u = 'u' ∨ u = 'U') (second : t = 't' ∨ t = 'T')
      (third : c = 'c' ∨ c = 'C') : Universal [u, t, c]
  | zulu : Universal ['Z']

/-- The texts of time zones, and the seconds that local time is ahead there. -/
inductive ZoneText : List Char → Int → Prop
  | universal {text : List Char} (named : Universal text) : ZoneText text 0
  | clock {sign : Char} {factor : Int} {hours minutes : Nat} {gap : List Char}
      (signed : Sign sign factor) (hoursFit : hours < 24) (minutesFit : minutes < 60)
      (apart : ∀ c ∈ gap, isSeparator c = true) :
      ZoneText (sign :: clockText hours gap minutes) (factor * (3600 * hours + 60 * minutes))

/-- Texts that look like time zones and are none. -/
inductive NoZoneText : List Char → Prop
  | hours {sign : Char} {factor : Int} {hours minutes : Nat} {gap : List Char}
      (signed : Sign sign factor) (beyond : 24 ≤ hours) (hoursFit : hours < 100)
      (minutesFit : minutes < 100) (apart : ∀ c ∈ gap, isSeparator c = true) :
      NoZoneText (sign :: clockText hours gap minutes)
  | minutes {sign : Char} {factor : Int} {hours minutes : Nat} {gap : List Char}
      (signed : Sign sign factor) (hoursFit : hours < 100) (beyond : 60 ≤ minutes)
      (minutesFit : minutes < 100) (apart : ∀ c ∈ gap, isSeparator c = true) :
      NoZoneText (sign :: clockText hours gap minutes)
  | noMinutes {sign : Char} {factor : Int} {hours : Nat} {gap rest : List Char}
      (signed : Sign sign factor) (hoursFit : hours < 100)
      (apart : ∀ c ∈ gap, isSeparator c = true) (stops : ∀ c ∈ rest.head?, isSeparator c = false)
      (missing : ∀ minutes after, rest ≠ twoDigits minutes ++ after) :
      NoZoneText (sign :: (twoDigits hours ++ (gap ++ rest)))
  | more {sign : Char} {factor : Int} {hours minutes : Nat} {gap rest : List Char}
      (signed : Sign sign factor) (hoursFit : hours < 100) (minutesFit : minutes < 100)
      (apart : ∀ c ∈ gap, isSeparator c = true) (left : rest ≠ []) :
      NoZoneText (sign :: (clockText hours gap minutes ++ rest))
  | unsigned {text : List Char}
      (noSign : ∀ sign factor, Sign sign factor → text.head? ≠ some sign)
      (unnamed : ¬ Universal text) : NoZoneText text

section

variable {c sign : Char} {cs rest text : List Char} {n seconds : Nat} {factor offset : Int}

theorem eq_digitChar_of_digit? (found : Integer.digit? c = some n) : n < 10 ∧ c = n.digitChar := by
  have digit := Integer.isDigit_of_digit? found
  have bounds : 48 ≤ c.toNat ∧ c.toNat ≤ 57 := Char.isDigit_iff_toNat.1 digit
  rw [Integer.digit?_of_isDigit digit] at found
  have value : c.toNat - 48 = n := Option.some.inj found
  have small : n < 10 := by omega
  refine ⟨small, Char.toNat_inj.1 ?_⟩
  rw [Nat.toNat_digitChar_of_lt_ten small]
  omega

theorem eq_twoDigits_of_readPair (found : readPair cs = some (n, rest)) :
    n < 100 ∧ cs = twoDigits n ++ rest := by
  match cs, found with
  | tens :: ones :: others, found =>
    simp only [readPair, Option.bind_eq_bind, Option.bind_eq_some_iff] at found
    obtain ⟨t, first, o, second, found⟩ := found
    cases found
    obtain ⟨firstFit, rfl⟩ := eq_digitChar_of_digit? first
    obtain ⟨secondFit, rfl⟩ := eq_digitChar_of_digit? second
    have tensDigit : (10 * t + o) / 10 % 10 = t := by omega
    have onesDigit : (10 * t + o) % 10 = o := by omega
    exact ⟨by omega, by simp [twoDigits, tensDigit, onesDigit]⟩

theorem eq_clockText_of_readClock (found : readClock cs = some (seconds, rest)) :
    ∃ hours gap minutes, minutes < 60 ∧ (∀ c ∈ gap, isSeparator c = true) ∧
      cs = clockText hours gap minutes ++ rest ∧ seconds = 3600 * hours + 60 * minutes := by
  simp only [readClock, Option.bind_eq_bind, Option.bind_eq_some_iff] at found
  obtain ⟨⟨hours, behind⟩, hoursRead, ⟨minutes, after⟩, minutesRead, found⟩ := found
  split at found
  · next minutesFit =>
    cases found
    obtain ⟨_, rfl⟩ := eq_twoDigits_of_readPair hoursRead
    obtain ⟨_, minutesText⟩ := eq_twoDigits_of_readPair minutesRead
    refine ⟨hours, behind.takeWhile isSeparator, minutes, minutesFit,
      fun _ member => List.mem_takeWhile_imp member, ?_, rfl⟩
    have split : behind = behind.takeWhile isSeparator ++ (twoDigits minutes ++ after) := by
      rw [← minutesText, List.takeWhile_append_dropWhile]
    rw [clockText, List.append_assoc, List.append_assoc, ← split]
  · cases found

theorem readFront_of_sign (signed : Sign sign factor) (cs : List Char) :
    readFront (sign :: cs) =
      (readClock cs).map fun (seconds, rest) => (factor * (seconds : Int), rest) := by
  rw [readFront, readSigned]
  cases readClock cs with
  | none => rfl
  | some found => cases signed <;> simp

theorem readFront_of_no_sign (noSign : ∀ factor, ¬ Sign c factor) (cs : List Char) :
    readFront (c :: cs) = none := by
  have plus : c ≠ '+' := fun same => noSign 1 (same ▸ .plus)
  have minus : c ≠ '-' := fun same => noSign (-1) (same ▸ .minus)
  have longMinus : c ≠ '\u2212' := fun same => noSign (-1) (same ▸ .longMinus)
  rw [readFront, readSigned]
  cases readClock cs with
  | none => rfl
  | some found => simp [plus, minus, longMinus]

theorem read_eq_some_iff {o : UtcOffset} :
    read cs = some o ↔ readFront cs = some (o.seconds, []) := by
  unfold read
  constructor
  · intro found
    split at found
    · next front => rw [front, seconds_of_ofSeconds? found]
    · cases found
  · intro front
    rw [front]
    exact ofSeconds?_seconds o

theorem zoneText_of_read {o : UtcOffset} (found : read cs = some o) : ZoneText cs o.seconds := by
  rw [read_eq_some_iff] at found
  cases cs with
  | nil => cases found
  | cons c cs =>
    by_cases signed : ∃ factor, Sign c factor
    · obtain ⟨factor, signed⟩ := signed
      rw [readFront_of_sign signed] at found
      obtain ⟨⟨seconds, left⟩, clock, same⟩ := Option.map_eq_some_iff.1 found
      obtain ⟨value, rfl⟩ := Prod.mk.inj same
      obtain ⟨hours, gap, minutes, minutesFit, apart, rfl, rfl⟩ := eq_clockText_of_readClock clock
      rw [Int.natCast_add, Int.natCast_mul, Int.natCast_mul] at value
      have value : factor * (3600 * hours + 60 * minutes) = o.seconds := value
      have hoursFit : hours < 24 := by
        have bounds := o.withinDay
        rw [← value] at bounds
        cases signed <;> omega
      rw [List.append_nil, ← value]
      exact .clock signed hoursFit minutesFit apart
    · rw [readFront_of_no_sign (not_exists.1 signed)] at found
      cases found

theorem toNat_toLower (c : Char) :
    c.toLower.toNat = if 65 ≤ c.toNat ∧ c.toNat ≤ 90 then c.toNat + 32 else c.toNat := by
  unfold Char.toLower
  by_cases upper : 65 ≤ c.toNat ∧ c.toNat ≤ 90
  · have inside : c.val ≥ 'A'.val ∧ c.val ≤ 'Z'.val := upper
    have sum : (c.val + ('a'.val - 'A'.val)).toNat = c.toNat + 32 := by
      rw [UInt32.toNat_add]
      exact Nat.mod_eq_of_lt (show c.toNat + 32 < 2 ^ 32 by omega)
    rw [dif_pos inside, if_pos upper]
    exact sum
  · have outside : ¬ (c.val ≥ 'A'.val ∧ c.val ≤ 'Z'.val) := upper
    rw [dif_neg outside, if_neg upper]

theorem toLower_eq_iff (upper : Char) (letter : 65 ≤ upper.toNat ∧ upper.toNat ≤ 90) :
    c.toLower = upper.toLower ↔ c = upper.toLower ∨ c = upper := by
  rw [← Char.toNat_inj, ← Char.toNat_inj, ← Char.toNat_inj, toNat_toLower, toNat_toLower,
    if_pos letter]
  split <;> omega

theorem named_iff {s : String} :
    s.toList.map Char.toLower = ['u', 't', 'c'] ∨ s = "Z" ↔ Universal s.toList := by
  constructor
  · rintro (utc | rfl)
    · obtain ⟨u, others, text, first, utc⟩ := List.map_eq_cons_iff.1 utc
      obtain ⟨t, others, rfl, second, utc⟩ := List.map_eq_cons_iff.1 utc
      obtain ⟨c, others, rfl, third, utc⟩ := List.map_eq_cons_iff.1 utc
      rw [text, List.map_eq_nil_iff.1 utc]
      exact .utc ((toLower_eq_iff 'U' (by decide)).1 first)
        ((toLower_eq_iff 'T' (by decide)).1 second) ((toLower_eq_iff 'C' (by decide)).1 third)
    · exact .zulu
  · intro named
    generalize text : s.toList = cs at named
    cases named with
    | utc first second third =>
      have u := (toLower_eq_iff 'U' (by decide)).2 first
      have t := (toLower_eq_iff 'T' (by decide)).2 second
      have c := (toLower_eq_iff 'C' (by decide)).2 third
      exact .inl (by rw [List.map_cons, List.map_cons, List.map_cons, List.map_nil, u, t, c]; rfl)
    | zulu => exact .inr (String.toList_inj.1 text)

theorem readClock_of_fits {hours minutes : Nat} {gap : List Char} (hoursFit : hours < 24)
    (minutesFit : minutes < 60) (apart : ∀ c ∈ gap, isSeparator c = true) :
    readClock (clockText hours gap minutes) = some (3600 * hours + 60 * minutes, []) := by
  have clock := readClock_clockText (by omega : hours < 100) (by omega : minutes < 100) apart []
  rwa [List.append_nil, if_pos minutesFit] at clock

theorem ZoneText.read {o : UtcOffset} (names : ZoneText cs o.seconds) (unnamed : ¬ Universal cs) :
    read cs = some o := by
  generalize offset : o.seconds = seconds at names
  cases names with
  | universal named => exact absurd named unnamed
  | clock signed hoursFit minutesFit apart =>
    rw [read_eq_some_iff, readFront_of_sign signed, readClock_of_fits hoursFit minutesFit apart,
      offset]
    simp

theorem Sign.not_universal (signed : Sign sign factor) : ¬ Universal (sign :: cs) := by
  intro named
  cases named with
  | utc first => rcases first with rfl | rfl <;> cases signed
  | zulu => cases signed

theorem ofZone?_eq_some_iff {zone : String} {o : UtcOffset} :
    ofZone? zone = some o ↔ ZoneText (Text.trim zone).toList o.seconds := by
  unfold ofZone?
  dsimp only
  by_cases named : Universal (Text.trim zone).toList
  · rw [if_pos (named_iff.2 named)]
    constructor
    · intro same
      cases same
      exact .universal named
    · generalize (Text.trim zone).toList = cs at named
      obtain ⟨offset, bounds⟩ := o
      intro names
      cases names with
      | universal => rfl
      | clock signed => exact absurd named signed.not_universal
  · rw [if_neg (named_iff.not.2 named)]
    exact ⟨zoneText_of_read, fun names => names.read named⟩

theorem isBlank_digitChar (digit : n < 10) : Text.isBlank n.digitChar = false := by
  have apart := isSeparator_digitChar digit
  simp only [isSeparator, Bool.or_eq_false_iff] at apart
  exact apart.2

theorem ZoneText.solid (names : ZoneText cs offset) :
    cs ≠ [] ∧ (∀ c ∈ cs.head?, Text.isBlank c = false) ∧
      ∀ c ∈ cs.getLast?, Text.isBlank c = false := by
  cases names with
  | universal named =>
    cases named with
    | utc first second third =>
      rcases first with rfl | rfl <;> rcases third with rfl | rfl <;> simp <;> decide
    | zulu => simp; decide
  | @clock sign factor hours minutes gap signed =>
    refine ⟨List.cons_ne_nil _ _, ?_, ?_⟩
    · cases signed <;> simp <;> decide
    · have last : sign :: clockText hours gap minutes =
          sign :: (twoDigits hours ++ (gap ++ [(minutes / 10 % 10).digitChar])) ++
            [(minutes % 10).digitChar] := by simp [clockText, twoDigits]
      rw [last, List.getLast?_concat]
      intro c same
      cases same
      exact isBlank_digitChar (by omega)

theorem ZoneText.exists_offset (names : ZoneText cs offset) :
    ∃ o : UtcOffset, o.seconds = offset := by
  have bounds : -86400 < offset ∧ offset < 86400 := by
    cases names with
    | universal => decide
    | clock signed => cases signed <;> omega
  exact ⟨⟨offset, bounds⟩, rfl⟩

theorem zoneText_write {o : UtcOffset} (whole : o.WholeMinutes) : ZoneText o.write o.seconds := by
  obtain ⟨hours, minutes, hoursFit, minutesFit, size, text⟩ := exists_write whole
  have colon : ∀ c ∈ [':'], isSeparator c = true := List.forall_mem_singleton.2 rfl
  rw [text]
  by_cases behind : o.seconds < 0
  · have value : -1 * (3600 * hours + 60 * minutes) = o.seconds := by omega
    rw [if_pos behind, ← value]
    exact .clock .minus hoursFit minutesFit colon
  · have value : 1 * (3600 * hours + 60 * minutes) = o.seconds := by omega
    rw [if_neg behind, ← value]
    exact .clock .plus hoursFit minutesFit colon

theorem ZoneText.clock_of_sign (names : ZoneText (sign :: cs) offset) (signed : Sign sign factor) :
    ∃ seconds, seconds < 86400 ∧ readClock cs = some (seconds, []) := by
  generalize text : sign :: cs = whole at names
  cases names with
  | universal named => exact absurd named (text ▸ signed.not_universal)
  | clock _ hoursFit minutesFit apart =>
    rw [(List.cons.inj text).2]
    exact ⟨_, by omega, readClock_of_fits hoursFit minutesFit apart⟩

theorem readClock_of_no_minutes {hours : Nat} {gap : List Char} (hoursFit : hours < 100)
    (apart : ∀ c ∈ gap, isSeparator c = true) (stops : ∀ c ∈ rest.head?, isSeparator c = false)
    (missing : ∀ minutes after, rest ≠ twoDigits minutes ++ after) :
    readClock (twoDigits hours ++ (gap ++ rest)) = none := by
  have unread : readPair rest = none := by
    cases read : readPair rest with
    | none => rfl
    | some found => exact absurd (eq_twoDigits_of_readPair read).2 (missing _ _)
  simp [readClock, readPair_twoDigits hoursFit, dropWhile_gap apart stops, unread]

theorem NoZoneText.not_zoneText (refused : NoZoneText cs) : ¬ ZoneText cs offset := by
  intro names
  cases refused with
  | hours signed beyond hoursFit minutesFit apart =>
    obtain ⟨seconds, small, read⟩ := names.clock_of_sign signed
    have clock := readClock_clockText hoursFit minutesFit apart []
    rw [List.append_nil, read] at clock
    split at clock
    · cases clock
      omega
    · cases clock
  | minutes signed hoursFit beyond minutesFit apart =>
    obtain ⟨_, _, read⟩ := names.clock_of_sign signed
    have clock := readClock_clockText hoursFit minutesFit apart []
    rw [List.append_nil, read, if_neg (by omega)] at clock
    cases clock
  | noMinutes signed hoursFit apart stops missing =>
    obtain ⟨_, _, read⟩ := names.clock_of_sign signed
    rw [readClock_of_no_minutes hoursFit apart stops missing] at read
    cases read
  | more signed hoursFit minutesFit apart left =>
    obtain ⟨_, _, read⟩ := names.clock_of_sign signed
    rw [readClock_clockText hoursFit minutesFit apart] at read
    split at read
    · exact left (congrArg Prod.snd (Option.some.inj read))
    · cases read
  | unsigned noSign unnamed =>
    cases names with
    | universal named => exact unnamed named
    | clock signed => exact noSign _ _ signed rfl

end

end UtcOffset

namespace Settings

open UtcOffset

theorem offset_eq_ok_iff {s : Settings} {o : UtcOffset} :
    s.offset = .ok o ↔ ZoneText (Text.trim s.timeZone).toList o.seconds := by
  rw [← ofZone?_eq_some_iff]
  unfold offset
  cases ofZone? s.timeZone <;> simp

theorem offset_of_around {s : Settings} {o : UtcOffset} {front text back : List Char}
    (around : s.timeZone.toList = front ++ (text ++ back))
    (before : ∀ c ∈ front, Text.isBlank c = true) (after : ∀ c ∈ back, Text.isBlank c = true)
    (names : ZoneText text o.seconds) : s.offset = .ok o := by
  obtain ⟨filled, begins, ends⟩ := names.solid
  have trimmed := Text.toList_trim_of_around around before after begins ends filled
  exact offset_eq_ok_iff.2 (trimmed ▸ names)

theorem wholeMinutes_of_offset {s : Settings} {o : UtcOffset} (found : s.offset = .ok o) :
    o.WholeMinutes :=
  wholeMinutes_of_ofZone? (ofZone?_eq_some_iff.2 (offset_eq_ok_iff.1 found))

theorem offset_of_write {o : UtcOffset} (whole : o.WholeMinutes) (s : Settings) :
    { s with timeZone := String.ofList o.write }.offset = .ok o := by
  have around : { s with timeZone := String.ofList o.write }.timeZone.toList =
      [] ++ (o.write ++ []) := by simp
  exact offset_of_around around (by simp) (by simp) (zoneText_write whole)

/-- A time zone is accepted just where its text, without the white space around it, is a name of
universal time or a clock behind a sign, with exactly what it says. -/
theorem offset_of_zone_text (s : Settings) :
    (∀ front text back seconds, s.timeZone.toList = front ++ (text ++ back) →
      (∀ c ∈ front, Text.isBlank c = true) → (∀ c ∈ back, Text.isBlank c = true) →
      ZoneText text seconds → ∃ o, s.offset = .ok o ∧ o.seconds = seconds) ∧
    (∀ o, s.offset = .ok o → ZoneText (Text.trim s.timeZone).toList o.seconds ∧ o.WholeMinutes ∧
      (-86400 < o.seconds ∧ o.seconds < 86400) ∧
      (∃ sign ∈ ['+', '-'], ∃ hours minutes, hours < 24 ∧ minutes < 60 ∧
        o.write = sign :: clockText hours [':'] minutes) ∧
      { s with timeZone := String.ofList o.write }.offset = .ok o) ∧
    (NoZoneText (Text.trim s.timeZone).toList →
      s.offset = .error (.invalidTimeZone s.timeZone) ∧
        s.check = .error (.invalidTimeZone s.timeZone)) := by
  refine ⟨fun _ _ _ _ around before after names => ?_, fun o found => ?_, fun refused => ?_⟩
  · obtain ⟨o, rfl⟩ := names.exists_offset
    exact ⟨o, offset_of_around around before after names, rfl⟩
  · have whole := wholeMinutes_of_offset found
    obtain ⟨hours, minutes, hoursFit, minutesFit, _, text⟩ := exists_write whole
    have sign : (if o.seconds < 0 then '-' else '+') ∈ ['+', '-'] := by split <;> simp
    exact ⟨offset_eq_ok_iff.1 found, whole, o.withinDay,
      ⟨_, sign, hours, minutes, hoursFit, minutesFit, text⟩, offset_of_write whole s⟩
  · have invalid : ofZone? s.timeZone = none := by
      cases found : ofZone? s.timeZone with
      | none => rfl
      | some o => exact absurd (ofZone?_eq_some_iff.1 found) refused.not_zoneText
    exact ⟨by rw [offset, invalid], check_of_invalid_zone invalid⟩

theorem offset_of_zone_text_compact :
    (∃ o, { standard with timeZone := " -0530\t" }.offset = .ok o ∧ o.seconds = -19800 ∧
      { standard with timeZone := String.ofList o.write }.offset = .ok o) ∧
    { standard with timeZone := "+24:00" }.offset = .error (.invalidTimeZone "+24:00") := by
  obtain ⟨accepts, returns, _⟩ := offset_of_zone_text { standard with timeZone := " -0530\t" }
  obtain ⟨_, _, refuses⟩ := offset_of_zone_text { standard with timeZone := "+24:00" }
  constructor
  · have names : ZoneText "-0530".toList (-19800) :=
      .clock .minus (by decide : 5 < 24) (by decide : 30 < 60) (by simp : ∀ c ∈ [], _)
    obtain ⟨o, found, seconds⟩ := accepts [' '] "-0530".toList ['\t'] (-19800) (by decide)
      (List.forall_mem_singleton.2 rfl) (List.forall_mem_singleton.2 rfl) names
    exact ⟨o, found, seconds, (returns o found).2.2.2.2⟩
  · have day : NoZoneText (Text.trim "+24:00").toList :=
      .hours .plus (by decide : 24 ≤ 24) (by decide) (by decide : 0 < 100)
        (List.forall_mem_singleton.2 rfl : ∀ c ∈ [':'], isSeparator c = true)
    exact (refuses day).1

end Settings

end FormIntake
