import FormIntake.Number.Decimal
import Mathlib.Data.List.Induction
import Mathlib.Data.List.TakeWhile

namespace FormIntake.Decimal

def Digits (cs : List Char) : Prop := cs ≠ [] ∧ ∀ c ∈ cs, c.isDigit

theorem Digits.not_mem {c : Char} {cs : List Char} (digits : Digits cs)
    (other : c.isDigit = false) : c ∉ cs := by
  intro member
  have digit := digits.2 c member
  rw [other] at digit
  cases digit

theorem Digits.head_ne {c d : Char} {cs : List Char} (digits : Digits (c :: cs))
    (other : d.isDigit = false) : c ≠ d := by
  rintro rfl
  exact digits.not_mem other List.mem_cons_self

theorem digitsValue_eq_ofDigitChars (digits : List Char) :
    digitsValue digits = Nat.ofDigitChars 10 digits 0 :=
  Nat.ofDigitChars_eq_foldl.symm

theorem digitsValue_toDigits (n : Nat) : digitsValue (Nat.toDigits 10 n) = n := by
  rw [digitsValue_eq_ofDigitChars, Nat.ofDigitChars_ten_toDigits]

theorem digitsValue_zeros_append (count : Nat) (digits : List Char) :
    digitsValue (List.replicate count '0' ++ digits) = digitsValue digits := by
  rw [digitsValue_eq_ofDigitChars, digitsValue_eq_ofDigitChars, Nat.ofDigitChars_append,
    Nat.ofDigitChars_replicate_zero, Nat.mul_zero]

theorem digitValue_lt {c : Char} (digit : c.isDigit) : c.toNat - '0'.toNat < 10 := by
  have bounds := Char.isDigit_iff_toNat.1 digit
  have nine : '9'.toNat = '0'.toNat + 9 := rfl
  omega

theorem digitsValue_lt {digits : List Char} (all : ∀ c ∈ digits, c.isDigit) :
    digitsValue digits < 10 ^ digits.length := by
  induction digits using List.reverseRecOn with
  | nil => decide
  | append_singleton front last ih =>
    have bound := ih fun c member => all c (List.mem_append_left _ member)
    have digit := digitValue_lt (all last (by simp))
    simp only [digitsValue, List.foldl_append, List.foldl_cons, List.foldl_nil,
      List.length_append, List.length_singleton, Nat.pow_succ] at bound ⊢
    omega

/-- `cs` is a point with digits behind it and maybe in front, and `x` is the double nearest to
it. -/
inductive Fraction : List Char → Binary64 → Prop
  | intro {whole places : List Char} (front : ∀ c ∈ whole, c.isDigit) (behind : Digits places) :
      Fraction (whole ++ '.' :: places)
        (nearest false (digitsValue (whole ++ places)) (-(places.length : Int)))

theorem Fraction.not_mem {c : Char} {cs : List Char} {x : Binary64} (written : Fraction cs x)
    (other : c.isDigit = false) (notPoint : c ≠ '.') : c ∉ cs := by
  cases written with
  | intro front behind =>
    intro member
    rcases List.mem_append.1 member with inWhole | inRest
    · have digit := front c inWhole
      rw [other] at digit
      cases digit
    · rcases List.mem_cons.1 inRest with same | inPlaces
      · exact notPoint same
      · exact behind.not_mem other inPlaces

theorem readNumber_fraction {whole places : List Char} (front : ∀ c ∈ whole, c.isDigit)
    (behind : Digits places) (negative : Bool) :
    readNumber negative (whole ++ '.' :: places) =
      some (nearest negative (digitsValue (whole ++ places)) (-(places.length : Int))) := by
  have takenWhole : takeDigits (whole ++ '.' :: places) = (whole, '.' :: places) := by
    rw [takeDigits, List.takeWhile_append_of_pos front, List.dropWhile_append_of_pos front]
    simp
  have takenPlaces : takeDigits places = (places, []) := by
    rw [takeDigits, List.takeWhile_eq_self_iff.2 behind.2, List.dropWhile_eq_nil_iff.2 behind.2]
  have filled : places.isEmpty = false := List.isEmpty_eq_false_iff.2 behind.1
  simp [readNumber, takenWhole, takenPlaces, filled, readExponent]

theorem readUnsigned_of_mem {cs : List Char} (point : '.' ∈ cs) (negative : Bool) :
    readUnsigned negative cs = readNumber negative cs := by
  have word (letters : List Char) (free : '.' ∉ letters) :
      String.ofList (cs.map Char.toLower) ≠ String.ofList letters := by
    intro same
    have lower : '.' ∈ cs.map Char.toLower := List.mem_map.2 ⟨'.', point, by decide⟩
    rw [String.ofList_injective same] at lower
    exact free lower
  have inf := word ['i', 'n', 'f'] (by decide)
  have infinity := word ['i', 'n', 'f', 'i', 'n', 'i', 't', 'y'] (by decide)
  have nan := word ['n', 'a', 'n'] (by decide)
  rw [readUnsigned, if_neg (not_or.2 ⟨inf, infinity⟩), if_neg nan]

theorem read_of_fraction {cs : List Char} {x : Binary64} (written : Fraction cs x) :
    read cs = some x := by
  have unsigned : read cs = readUnsigned false cs := by
    cases cs with
    | nil => rfl
    | cons c cs =>
      have notPlus : c ≠ '+' := by
        rintro rfl
        exact written.not_mem (by decide) (by decide) List.mem_cons_self
      have notMinus : c ≠ '-' := by
        rintro rfl
        exact written.not_mem (by decide) (by decide) List.mem_cons_self
      rw [read]
      all_goals simp_all
  cases written with
  | intro front behind =>
    rw [unsigned, readUnsigned_of_mem (by simp), readNumber_fraction front behind]

end FormIntake.Decimal
