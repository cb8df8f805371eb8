import FormIntake.Calendar.Rfc3339
import FormIntake.Proofs.Calendar.Offset
import FormIntake.Proofs.Number.Digits
import Mathlib.Data.List.TakeWhile

namespace FormIntake

def TimeOfDay.LeapAtEnd (t : TimeOfDay) : Prop := 10 ^ 9 ≤ t.nanosecond → t.second = 59

theorem TimeOfDay.leapAtEnd_midnight : midnight.LeapAtEnd := by
  intro leap
  exact absurd leap (by decide)

namespace Layout

/-- What holds of all parts that have been read: a fraction is less than a second, and an offset is
a whole number of minutes. -/
structure Parts.Sound (p : Parts) : Prop where
  fraction : ∀ n ∈ p.nanosecond, n < 10 ^ 9
  offset : ∀ seconds ∈ p.offset, seconds % 60 = 0

theorem Parts.sound_empty : Sound {} := by
  constructor
  · rintro n ⟨⟩
  · rintro seconds ⟨⟩

theorem eq_of_agree? {α : Type} [DecidableEq α] {old new' : Option α} {new : α}
    (found : agree? old new = some new') : new' = some new := by
  unfold agree? at found
  split at found
  · cases found; rfl
  · split at found
    · next same => cases found; rw [same]
    · cases found

theorem Parts.Sound.withFraction {p : Parts} (sound : p.Sound) {value : Nat}
    {nanosecond : Option Nat} (agreed : agree? p.nanosecond value = some nanosecond)
    (small : value < 10 ^ 9) : Sound { p with nanosecond } := by
  refine ⟨?_, sound.offset⟩
  rw [eq_of_agree? agreed]
  rintro n ⟨⟩
  exact small

theorem Parts.Sound.note? {p q : Parts} (sound : p.Sound) {n : Numeral} {value : Int}
    (small : n = .nanosecond → value < 10 ^ 9) (found : p.note? n value = some q) : q.Sound := by
  cases n
  case nanosecond =>
    obtain ⟨agreed, agreement, found⟩ := Option.bind_eq_some_iff.1 found
    cases found
    have bound := small rfl
    exact sound.withFraction agreement (by omega)
  case hour =>
    obtain ⟨half, _, found⟩ := Option.bind_eq_some_iff.1 found
    obtain ⟨hourOfHalf, _, found⟩ := Option.bind_eq_some_iff.1 found
    cases found
    exact ⟨sound.fraction, sound.offset⟩
  all_goals
    obtain ⟨agreed, _, found⟩ := Option.bind_eq_some_iff.1 found
    cases found
    exact ⟨sound.fraction, sound.offset⟩

theorem Parts.Sound.put? {p q : Parts} (sound : p.Sound) {n : Numeral} {value : Int}
    (found : p.put? n value = some q) : q.Sound := by
  unfold Parts.put? at found
  split at found
  · next inside =>
    refine sound.note? (fun isNanosecond => ?_) found
    have below := inside.2
    rw [isNanosecond] at below
    exact Int.lt_of_le_sub_one below
  · cases found

theorem takeNumber_lt {bound value : Nat} {cs rest : List Char}
    (found : takeNumber (some bound) cs = some (value, rest)) :
    value < 10 ^ min (cs.takeWhile Char.isDigit).length bound := by
  simp only [takeNumber] at found
  split at found
  · cases found
  · cases found
    have all : ∀ c ∈ (cs.takeWhile Char.isDigit).take bound, c.isDigit := fun c member =>
      List.mem_takeWhile_imp (List.mem_of_mem_take member)
    have below := Decimal.digitsValue_lt all
    rwa [List.length_take, Nat.min_comm] at below

theorem scaled_lt {value places : Nat} (few : places ≤ 9) (small : value < 10 ^ places) :
    value * 10 ^ (9 - places) < 10 ^ 9 := by
  have positive : 0 < 10 ^ (9 - places) := Nat.pow_pos (by decide)
  calc value * 10 ^ (9 - places)
      < 10 ^ places * 10 ^ (9 - places) := Nat.mul_lt_mul_of_pos_right small positive
    _ = 10 ^ 9 := by rw [← Nat.pow_add, Nat.add_sub_cancel' few]

theorem takeFraction_lt {value : Nat} {cs rest : List Char}
    (found : takeFraction cs = some (value, rest)) : value < 10 ^ 9 := by
  simp only [takeFraction, Option.bind_eq_bind] at found
  obtain ⟨⟨number, _⟩, taken, found⟩ := Option.bind_eq_some_iff.1 found
  cases found
  exact scaled_lt (Nat.min_le_right _ 9) (takeNumber_lt taken)

theorem takeDecimals_lt {count value : Nat} {cs rest : List Char} (few : count ≤ 9)
    (found : takeDecimals count cs = some (value, rest)) : value < 10 ^ 9 := by
  simp only [takeDecimals] at found
  split at found
  · next digits =>
    cases found
    have below := Decimal.digitsValue_lt (List.all_eq_true.1 digits.2)
    rw [digits.1] at below
    exact scaled_lt few below
  · cases found

theorem dvd_of_readZone {cs rest : List Char} {seconds : Int}
    (found : readZone cs = some (seconds, rest)) : seconds % 60 = 0 := by
  unfold readZone at found
  split at found
  · cases found; rfl
  · exact UtcOffset.dvd_of_readZulu UtcOffset.dvd_of_readClock found

theorem Parts.Sound.noteOffset? {p q : Parts} (sound : p.Sound) {found : Option (Int × List Char)}
    {rest : List Char} (whole : ∀ seconds rest, found = some (seconds, rest) → seconds % 60 = 0)
    (noted : noteOffset? p found = some (q, rest)) : q.Sound := by
  obtain ⟨⟨seconds, left⟩, read, noted⟩ := Option.bind_eq_some_iff.1 noted
  obtain ⟨offset, agreement, noted⟩ := Option.bind_eq_some_iff.1 noted
  cases noted
  refine ⟨sound.fraction, ?_⟩
  rw [eq_of_agree? agreement]
  rintro other ⟨⟩
  exact whole seconds _ read

theorem Parts.Sound.readItem {p q : Parts} (sound : p.Sound) {cs rest : List Char} {item : Item}
    (found : readItem p cs item = some (q, rest)) : q.Sound := by
  cases item <;> simp only [Layout.readItem] at found
  case literal c | timeMark =>
    split at found
    · split at found
      · cases found; exact sound
      · cases found
    · cases found
  case blank | zoneName => cases found; exact sound
  case numeral n =>
    obtain ⟨⟨value, _⟩, _, found⟩ := Option.bind_eq_some_iff.1 found
    obtain ⟨_, put, found⟩ := Option.bind_eq_some_iff.1 found
    cases found
    exact sound.put? put
  case offset => exact sound.noteOffset? (fun _ _ => UtcOffset.dvd_of_readFront) found
  case shortOffset =>
    exact sound.noteOffset? (fun _ _ => UtcOffset.dvd_of_readZulu UtcOffset.dvd_of_readHours) found
  case zone => exact sound.noteOffset? (fun _ _ => dvd_of_readZone) found
  case fraction =>
    split at found
    · obtain ⟨⟨value, _⟩, taken, found⟩ := Option.bind_eq_some_iff.1 found
      obtain ⟨_, agreed, found⟩ := Option.bind_eq_some_iff.1 found
      cases found
      exact sound.withFraction agreed (takeFraction_lt taken)
    · cases found; exact sound
  case decimals count =>
    obtain ⟨⟨value, _⟩, taken, found⟩ := Option.bind_eq_some_iff.1 found
    obtain ⟨_, agreed, found⟩ := Option.bind_eq_some_iff.1 found
    cases found
    exact sound.withFraction agreed (takeDecimals_lt (Nat.le_of_lt_succ count.isLt) taken)
  case unknown => cases found
  all_goals
    obtain ⟨_, _, found⟩ := Option.bind_eq_some_iff.1 found
    obtain ⟨_, _, found⟩ := Option.bind_eq_some_iff.1 found
    cases found
    exact ⟨sound.fraction, sound.offset⟩

theorem Parts.Sound.readItems {p q : Parts} (sound : p.Sound) {cs rest : List Char}
    {items : List Item} (found : readItems p cs items = some (q, rest)) : q.Sound := by
  induction items generalizing p cs with
  | nil => cases found; exact sound
  | cons item items ih =>
    obtain ⟨⟨after, left⟩, first, found⟩ := Option.bind_eq_some_iff.1 found
    exact ih (sound.readItem first) found

theorem nanosecond_of_of? {hour minute second nanosecond : Nat} {t : TimeOfDay}
    (found : TimeOfDay.of? hour minute second nanosecond = some t) :
    t.second = second ∧ t.nanosecond = nanosecond := by
  unfold TimeOfDay.of? at found
  split at found
  · cases found; exact ⟨rfl, rfl⟩
  · cases found

theorem Parts.Sound.leapAtEnd_time? {p : Parts} (sound : p.Sound) {t : TimeOfDay}
    (found : p.time? = some t) : t.LeapAtEnd := by
  have small : p.nanosecond.getD 0 < 10 ^ 9 := by
    cases nanosecond : p.nanosecond with
    | none => decide
    | some n => exact sound.fraction n nanosecond
  obtain ⟨half, _, found⟩ := Option.bind_eq_some_iff.1 found
  obtain ⟨hourOfHalf, _, found⟩ := Option.bind_eq_some_iff.1 found
  obtain ⟨minute, _, found⟩ := Option.bind_eq_some_iff.1 found
  intro leap
  dsimp only at found
  split at found
  · cases found
  · split at found
    · exact (nanosecond_of_of? found).1
    · rw [(nanosecond_of_of? found).2] at leap
      omega

theorem Parts.Sound.complete? {p q : Parts} (sound : p.Sound) {instant : Int}
    (found : p.complete? instant = some q) : q.Sound := by
  obtain ⟨_, year, found⟩ := Option.bind_eq_some_iff.1 found
  obtain ⟨_, day, found⟩ := Option.bind_eq_some_iff.1 found
  obtain ⟨_, hour, found⟩ := Option.bind_eq_some_iff.1 found
  obtain ⟨_, minute, found⟩ := Option.bind_eq_some_iff.1 found
  have before := Sound.put? (Sound.put? (Sound.put? (sound.put? year) day) hour) minute
  split at found
  · cases found; exact before
  · exact before.put? found

theorem Parts.Sound.leapAtEnd_localDateTime? {p : Parts} (sound : p.Sound) {t : LocalDateTime}
    (found : p.localDateTime? = some t) : t.time.LeapAtEnd := by
  unfold Parts.localDateTime? at found
  split at found
  · next date time =>
    split at found
    · cases found; exact sound.leapAtEnd_time? time
    · cases found
  · obtain ⟨timestamp, _, found⟩ := Option.bind_eq_some_iff.1 found
    obtain ⟨instant, _, found⟩ := Option.bind_eq_some_iff.1 found
    obtain ⟨q, completed, found⟩ := Option.bind_eq_some_iff.1 found
    obtain ⟨date, _, found⟩ := Option.bind_eq_some_iff.1 found
    obtain ⟨time, named, found⟩ := Option.bind_eq_some_iff.1 found
    cases found
    exact (sound.complete? completed).leapAtEnd_time? named

theorem leapAtEnd_readDateTime {layout text : String} {t : LocalDateTime}
    (found : readDateTime layout text = some t) : t.time.LeapAtEnd := by
  obtain ⟨p, parts, named⟩ := Option.bind_eq_some_iff.1 found
  unfold read at parts
  split at parts
  · next reads =>
    cases parts
    exact (Parts.sound_empty.readItems reads).leapAtEnd_localDateTime? named
  · cases parts

end Layout

end FormIntake
