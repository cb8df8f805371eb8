import FormIntake.Number.Integer
import FormIntake.Proofs.Number.Digits

namespace FormIntake.Integer

open Decimal

theorem digit?_of_isDigit {c : Char} (digit : c.isDigit) :
    digit? c = some (c.toNat - '0'.toNat) := by
  have bounds := Char.isDigit_iff_toNat.1 digit
  have inside : '0' ≤ c ∧ c ≤ '9' := ⟨Char.le_def.2 bounds.1, Char.le_def.2 bounds.2⟩
  rw [digit?, if_pos inside]

theorem isDigit_of_digit? {c : Char} {d : Nat} (found : digit? c = some d) : c.isDigit := by
  unfold digit? at found
  split at found
  · next inside =>
    exact Char.isDigit_iff_toNat.2 ⟨Char.le_def.1 inside.1, Char.le_def.1 inside.2⟩
  · cases found

section

variable {limit n m : Nat} {excess : IntegerFault} {cs : List Char}

theorem isDigit_of_readDigits (found : readDigits limit excess n cs = .ok m) :
    ∀ c ∈ cs, c.isDigit := by
  induction cs generalizing n with
  | nil => simp
  | cons c cs ih =>
    unfold readDigits at found
    cases digit : digit? c with
    | none => simp [digit] at found
    | some d =>
      simp only [digit] at found
      split at found
      · intro other member
        rcases List.mem_cons.1 member with rfl | later
        · exact isDigit_of_digit? digit
        · exact ih found other later
      · cases found

theorem le_ofDigitChars (n : Nat) (cs : List Char) : n ≤ Nat.ofDigitChars 10 cs n := by
  induction cs generalizing n with
  | nil => exact Nat.le_refl n
  | cons c cs ih =>
    rw [Nat.ofDigitChars_cons]
    have grown := ih (10 * n + (c.toNat - '0'.toNat))
    omega

theorem readDigits_of_isDigit (all : ∀ c ∈ cs, c.isDigit) (start : n ≤ limit) :
    readDigits limit excess n cs =
      if Nat.ofDigitChars 10 cs n ≤ limit then .ok (Nat.ofDigitChars 10 cs n)
      else .error excess := by
  induction cs generalizing n with
  | nil => simp [readDigits, Nat.ofDigitChars, start]
  | cons c cs ih =>
    have digit := digit?_of_isDigit (all c List.mem_cons_self)
    have later : ∀ c ∈ cs, c.isDigit := fun c member => all c (List.mem_cons_of_mem _ member)
    rw [Nat.ofDigitChars_cons]
    simp only [readDigits, digit]
    by_cases inside : 10 * n + (c.toNat - '0'.toNat) ≤ limit
    · rw [if_pos inside, ih later inside]
    · have grown := le_ofDigitChars (10 * n + (c.toNat - '0'.toNat)) cs
      rw [if_neg inside, if_neg (by omega)]

theorem readMagnitude_of_digits (digits : Digits cs) :
    readMagnitude limit excess cs =
      if digitsValue cs ≤ limit then .ok (digitsValue cs) else .error excess := by
  obtain ⟨filled, all⟩ := digits
  cases cs with
  | nil => exact absurd rfl filled
  | cons c cs =>
    rw [readMagnitude, readDigits_of_isDigit all (Nat.zero_le limit), digitsValue_eq_ofDigitChars]
    simp

theorem digits_of_readMagnitude (found : readMagnitude limit excess cs = .ok m) : Digits cs := by
  cases cs with
  | nil => cases found
  | cons c cs =>
    rw [readMagnitude] at found
    · exact ⟨List.cons_ne_nil c cs, isDigit_of_readDigits found⟩
    · simp

theorem readMagnitude_eq_ok_iff :
    readMagnitude limit excess cs = .ok m ↔
      Digits cs ∧ m = digitsValue cs ∧ digitsValue cs ≤ limit := by
  constructor
  · intro found
    have digits := digits_of_readMagnitude found
    rw [readMagnitude_of_digits digits] at found
    split at found
    · next fits => cases found; exact ⟨digits, rfl, fits⟩
    · cases found
  · rintro ⟨digits, rfl, fits⟩
    rw [readMagnitude_of_digits digits, if_pos fits]

end

/-- `cs` is digits with or without a sign, and `n` is the number that they write. -/
inductive Writes : List Char → Int → Prop
  | bare {cs : List Char} (digits : Digits cs) : Writes cs (digitsValue cs)
  | plus {cs : List Char} (digits : Digits cs) : Writes ('+' :: cs) (digitsValue cs)
  | minus {cs : List Char} (digits : Digits cs) : Writes ('-' :: cs) (-digitsValue cs)

theorem Writes.ne_nil {cs : List Char} {n : Int} (writes : Writes cs n) : cs ≠ [] := by
  cases writes with
  | bare digits => exact digits.1
  | plus | minus => exact List.cons_ne_nil _ _

theorem read_of_digits {w : IntWidth} {cs : List Char} (digits : Digits cs) :
    read w cs =
      if (digitsValue cs : Int) ≤ w.greatest then .ok (digitsValue cs) else .error .tooLarge := by
  cases cs with
  | nil => exact absurd rfl digits.1
  | cons c cs =>
    have notPlus : c ≠ '+' := digits.head_ne (by decide)
    have notMinus : c ≠ '-' := digits.head_ne (by decide)
    have high := w.greatest_nonneg
    rw [read]
    · rw [readMagnitude_of_digits digits]
      by_cases fits : digitsValue (c :: cs) ≤ w.greatest.toNat
      · rw [if_pos fits, if_pos (by omega)]; rfl
      · rw [if_neg fits, if_neg (by omega)]; rfl
    all_goals simp_all

theorem read_eq_ok_iff {w : IntWidth} (signed : w.least ≠ 0) {cs : List Char} {n : Int} :
    read w cs = .ok n ↔ Writes cs n ∧ w.holds n = true := by
  have low := w.least_nonpos
  have high := w.greatest_nonneg
  simp only [IntWidth.holds, Bool.and_eq_true, decide_eq_true_eq]
  constructor
  · intro found
    have held := holds_of_read found
    simp only [IntWidth.holds, Bool.and_eq_true, decide_eq_true_eq] at held
    refine ⟨?_, held⟩
    unfold read at found
    split at found
    · cases found
    · obtain ⟨m, magnitude, rfl⟩ := eq_of_map_ok found
      obtain ⟨digits, rfl, _⟩ := readMagnitude_eq_ok_iff.1 magnitude
      exact .plus digits
    · rw [if_neg signed] at found
      obtain ⟨m, magnitude, rfl⟩ := eq_of_map_ok found
      obtain ⟨digits, rfl, _⟩ := readMagnitude_eq_ok_iff.1 magnitude
      exact .minus digits
    · obtain ⟨m, magnitude, rfl⟩ := eq_of_map_ok found
      obtain ⟨digits, rfl, _⟩ := readMagnitude_eq_ok_iff.1 magnitude
      exact .bare digits
  · rintro ⟨writes, atLeast, atMost⟩
    cases writes with
    | bare digits => rw [read_of_digits digits, if_pos atMost]
    | @plus cs digits =>
      have fits : digitsValue cs ≤ w.greatest.toNat := by omega
      rw [read, readMagnitude_of_digits digits, if_pos fits]
      rfl
    | @minus cs digits =>
      have fits : digitsValue cs ≤ (-w.least).toNat := by omega
      rw [read, if_neg signed, readMagnitude_of_digits digits, if_pos fits]
      rfl

end FormIntake.Integer
