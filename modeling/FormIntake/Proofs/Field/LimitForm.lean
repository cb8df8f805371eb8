import FormIntake.Field.Limit
import FormIntake.Proofs.Number.Integer
import FormIntake.Proofs.Text.Pieces

namespace FormIntake.Limit

open Decimal

def Positive (cs : List Char) : Prop := Digits cs ∧ cs.head? ≠ some '0'

structure IntRange (cs least greatest : List Char) : Prop where
  joined : cs = least ++ '-' :: greatest
  least : Digits least
  greatest : Digits greatest

inductive FloatRange : List Char → Binary64 → Binary64 → Prop
  | intro {least greatest : List Char} {x y : Binary64} (low : Fraction least x)
      (high : Fraction greatest y) : FloatRange (least ++ '-' :: greatest) x y

/-- `cs` has none of the other forms, and `items` are its parts between commas. -/
structure Listing (cs : List Char) (items : List (List Char)) : Prop where
  filled : cs ≠ []
  unmarked : ∀ source, cs ≠ 'r' :: 'e' :: ':' :: source
  notPositive : ¬ Positive cs
  notIntRange : ∀ least greatest, ¬ IntRange cs least greatest
  notFloatRange : ∀ x y, ¬ FloatRange cs x y
  separated : Text.Separated ',' cs items

section

variable {cs least greatest : List Char}

theorem isDigits_iff : isDigits cs = true ↔ Digits cs := by
  simp [isDigits, Digits]

theorem isLength_iff : isLength cs = true ↔ Positive cs := by
  cases cs with
  | nil => simp [isLength, Positive, Digits]
  | cons c cs =>
    have zero : '0'.toNat = 48 := rfl
    have one : '1'.toNat = 49 := rfl
    have nine : '9'.toNat = 57 := rfl
    have digit : ('1' ≤ c ∧ c ≤ '9') ↔ c.isDigit = true ∧ c ≠ '0' := by
      rw [Char.isDigit_iff_toNat, Char.le_def, Char.le_def, ne_eq, ← Char.toNat_inj]
      change 49 ≤ c.toNat ∧ c.toNat ≤ 57 ↔ _
      omega
    simp only [isLength, Positive, Digits, Bool.and_eq_true, decide_eq_true_eq,
      List.all_eq_true, List.forall_mem_cons, List.head?_cons, ne_eq, Option.some.injEq,
      List.cons_ne_nil, not_false_eq_true, true_and]
    rw [digit]
    tauto

theorem intBounds?_eq_some_iff :
    intBounds? cs = some (least, greatest) ↔ IntRange cs least greatest := by
  simp only [intBounds?]
  constructor
  · intro found
    split at found
    · next holds =>
      simp only [Bool.and_eq_true, isDigits_iff, List.contains_iff_mem] at holds
      cases found
      exact ⟨(Text.append_cut holds.1.1).symm, holds.1.2, holds.2⟩
    · cases found
  · rintro ⟨rfl, low, high⟩
    rw [Text.cut_append (low.not_mem (by decide))]
    simp [isDigits_iff.2 low, isDigits_iff.2 high]

theorem isFraction_iff : isFraction cs = true ↔ ∃ x, Fraction cs x := by
  simp only [isFraction]
  constructor
  · intro holds
    simp only [Bool.and_eq_true, isDigits_iff, List.contains_iff_mem, List.all_eq_true] at holds
    have written := Fraction.intro holds.1.2 holds.2
    rw [Text.append_cut holds.1.1] at written
    exact ⟨_, written⟩
  · rintro ⟨x, @⟨whole, places, front, behind⟩⟩
    have free : '.' ∉ whole := fun member => absurd (front _ member) (by decide)
    rw [Text.cut_append free]
    simp only [Bool.and_eq_true, isDigits_iff, List.all_eq_true]
    exact ⟨⟨by simp, front⟩, behind⟩

theorem floatBounds?_eq_some_iff :
    floatBounds? cs = some (least, greatest) ↔
      cs = least ++ '-' :: greatest ∧ (∃ x, Fraction least x) ∧ ∃ y, Fraction greatest y := by
  simp only [floatBounds?]
  constructor
  · intro found
    split at found
    · next holds =>
      simp only [Bool.and_eq_true, isFraction_iff, List.contains_iff_mem] at holds
      cases found
      exact ⟨(Text.append_cut holds.1.1).symm, holds.1.2, holds.2⟩
    · cases found
  · rintro ⟨rfl, ⟨x, low⟩, y, high⟩
    rw [Text.cut_append (low.not_mem (by decide) (by decide))]
    simp [isFraction_iff.2 ⟨x, low⟩, isFraction_iff.2 ⟨y, high⟩]

theorem FloatRange.bounds {x y : Binary64} (form : FloatRange cs x y) :
    ∃ least greatest, floatBounds? cs = some (least, greatest) ∧ Fraction least x ∧
      Fraction greatest y := by
  cases form with
  | intro low high =>
    exact ⟨_, _, floatBounds?_eq_some_iff.2 ⟨rfl, ⟨_, low⟩, _, high⟩, low, high⟩

end

section

variable {cs least greatest : List Char} {x y : Binary64}

theorem IntRange.not_positive (form : IntRange cs least greatest) : ¬ Positive cs := by
  intro positive
  have hyphen : '-' ∈ cs := by simp [form.joined]
  exact positive.1.not_mem (by decide) hyphen

theorem FloatRange.not_positive (form : FloatRange cs x y) : ¬ Positive cs := by
  intro positive
  cases form with
  | intro low high => exact positive.1.not_mem (c := '-') (by decide) (by simp)

theorem FloatRange.not_intRange (form : FloatRange cs x y) : ¬ IntRange cs least greatest := by
  intro range
  obtain ⟨least', greatest', bounds, low, _⟩ := form.bounds
  have cut := intBounds?_eq_some_iff.2 range
  have joined := (floatBounds?_eq_some_iff.1 bounds).1
  have free' : '-' ∉ least' := low.not_mem (by decide) (by decide)
  have free : '-' ∉ least := range.least.not_mem (by decide)
  have same : (least', greatest') = (least, greatest) := by
    rw [← Text.cut_append free', ← Text.cut_append free, ← joined, ← range.joined]
  cases same
  -- The bound in front of the hyphen has a point, and so is no row of digits.
  cases low with
  | intro front behind => exact range.least.not_mem (c := '.') (by decide) (by simp)

theorem unmarked_of_not_mem (free : 'r' ∉ cs) (source : List Char) :
    cs ≠ 'r' :: 'e' :: ':' :: source := by
  rintro rfl
  exact free List.mem_cons_self

theorem IntRange.unmarked (form : IntRange cs least greatest) (source : List Char) :
    cs ≠ 'r' :: 'e' :: ':' :: source := by
  refine unmarked_of_not_mem ?_ source
  have low : 'r' ∉ least := form.least.not_mem (by decide)
  have high : 'r' ∉ greatest := form.greatest.not_mem (by decide)
  simp [form.joined, low, high]

theorem FloatRange.unmarked (form : FloatRange cs x y) (source : List Char) :
    cs ≠ 'r' :: 'e' :: ':' :: source := by
  refine unmarked_of_not_mem ?_ source
  cases form with
  | intro low high =>
    have first := low.not_mem (c := 'r') (by decide) (by decide)
    have second := high.not_mem (c := 'r') (by decide) (by decide)
    simp [first, second]

end

end FormIntake.Limit
