import FormIntake.Calendar.Rfc3339
import FormIntake.Proofs.Number.Digits

namespace FormIntake

open Decimal

theorem Text.isBlank_of_isDigit {c : Char} (digit : c.isDigit) : isBlank c = false := by
  have bounds := Char.isDigit_iff_toNat.1 digit
  have zero : '0'.toNat = 0x30 := rfl
  have nine : '9'.toNat = 0x39 := rfl
  simp only [isBlank, Bool.or_eq_false_iff, Bool.and_eq_false_imp, decide_eq_true_eq,
    decide_eq_false_iff_not, beq_eq_false_iff_ne]
  omega

def NoDigitFirst (rest : List Char) : Prop := ∀ c ∈ rest.head?, c.isDigit = false

theorem noDigitFirst_cons {c : Char} {rest : List Char} (other : c.isDigit = false) :
    NoDigitFirst (c :: rest) := by
  intro first member
  cases member
  exact other

theorem takeWhile_digits_append {digits rest : List Char} (all : ∀ c ∈ digits, c.isDigit)
    (stops : NoDigitFirst rest) : (digits ++ rest).takeWhile Char.isDigit = digits := by
  rw [List.takeWhile_append_of_pos all]
  cases rest with
  | nil => simp
  | cons c rest => simp [stops c rfl]

namespace Layout

theorem takeNumber_append {width : Option Nat} {digits rest : List Char}
    (all : ∀ c ∈ digits, c.isDigit) (filled : digits ≠ [])
    (fits : ∀ bound ∈ width, digits.length ≤ bound) (stops : NoDigitFirst rest) :
    takeNumber width (digits ++ rest) = some (digitsValue digits, rest) := by
  have notEmpty : digits.isEmpty = false := List.isEmpty_eq_false_iff.2 filled
  cases width with
  | none => simp [takeNumber, takeWhile_digits_append all stops, notEmpty]
  | some bound =>
    have taken : digits.take bound = digits := List.take_of_length_le (fits bound rfl)
    simp [takeNumber, takeWhile_digits_append all stops, taken, notEmpty]

theorem takeNumeral_append {n : Numeral} {digits rest : List Char} (all : ∀ c ∈ digits, c.isDigit)
    (filled : digits ≠ []) (fits : ∀ bound ∈ n.width, digits.length ≤ bound)
    (stops : NoDigitFirst rest) :
    takeNumeral n (digits ++ rest) = some ((digitsValue digits : Int), rest) := by
  have number := takeNumber_append all filled fits stops
  cases digits with
  | nil => exact absurd rfl filled
  | cons c digits =>
    have digit : c.isDigit := all c List.mem_cons_self
    rw [List.cons_append] at number ⊢
    unfold takeNumeral
    split
    · next sign => cases sign; exact absurd digit (by decide)
    · next sign => cases sign; exact absurd digit (by decide)
    · rw [number]; rfl

end Layout

namespace Rfc3339

theorem isDigit_of_mem_padded {width n : Nat} {c : Char} (member : c ∈ padded width n) :
    c.isDigit := by
  rcases List.mem_append.1 member with zero | digit
  · rw [List.eq_of_mem_replicate zero]; decide
  · exact Nat.isDigit_of_mem_toDigits (by decide) (by decide) digit

theorem padded_ne_nil (width n : Nat) : padded width n ≠ [] :=
  List.append_ne_nil_of_right_ne_nil _ Nat.toDigits_ne_nil

theorem digitsValue_padded (width n : Nat) : digitsValue (padded width n) = n := by
  rw [padded, digitsValue_zeros_append, digitsValue_toDigits]

theorem length_padded {width n : Nat} (positive : 0 < width) (fits : n < 10 ^ width) :
    (padded width n).length = width := by
  have short := (Nat.length_toDigits_le_iff (by decide) positive).2 fits
  simp only [padded, List.length_append, List.length_replicate]
  omega

theorem dropBlank_padded_append (width n : Nat) (rest : List Char) :
    (padded width n ++ rest).dropWhile Text.isBlank = padded width n ++ rest := by
  have filled := padded_ne_nil width n
  cases digits : padded width n with
  | nil => exact absurd digits filled
  | cons c others =>
    have digit : c.isDigit := isDigit_of_mem_padded (digits ▸ List.mem_cons_self)
    have notBlank : Text.isBlank c = false := Text.isBlank_of_isDigit digit
    rw [List.cons_append, List.dropWhile_cons_of_neg (by simp [notBlank])]

end Rfc3339

end FormIntake
