import FormIntake.Proofs.Field.Accepted
import FormIntake.Proofs.Field.Spec
import FormIntake.Proofs.Number.Nearest

namespace FormIntake

namespace Validator

variable {f : Field} {x least greatest : Binary64}

theorem checkFloatRange_eq_ok_iff :
    checkFloatRange f x least greatest = .ok () ↔ x.lt least = false ∧ greatest.lt x = false := by
  unfold checkFloatRange
  cases x.lt least with
  | true => simp
  | false => cases greatest.lt x <;> simp

theorem of_checkFloatRange {e : ValidationError}
    (refused : checkFloatRange f x least greatest = .error e) :
    e = tooLow f least.text ∧ x.lt least = true ∨
      e = tooHigh f greatest.text ∧ greatest.lt x = true := by
  unfold checkFloatRange at refused
  split at refused
  · next low =>
    cases refused
    exact .inl ⟨rfl, low⟩
  · split at refused
    · next high =>
      cases refused
      exact .inr ⟨rfl, high⟩
    · cases refused

end Validator

namespace FieldSpec

variable {r : Registry} {d : SpecDraft} {spec : FieldSpec} {history : List (String × FieldType)}
  {least greatest : List Char}

theorem Made.validate_float (known : r.History history) (made : Made r d spec)
    (float : spec.fieldType = .builtin .float) (unvalidated : d.validator = none)
    (form : Limit.IntRange spec.limitExpr.toList least greatest) :
    Decimal.digitsValue least ≤ Decimal.digitsValue greatest ∧
    Decimal.digitsValue greatest < 2 ^ 63 ∧
    ∀ x, spec.validate (.float x) =
      (Validator.checkFloatRange spec.toField x (.ofInt (Decimal.digitsValue least))
        (.ofInt (Decimal.digitsValue greatest))).mapError
          fun e => { e with field := e.field.or (some spec.key) } := by
  have sound := made.sound known
  have parsed := sound.limited (by rw [float]; rfl)
  obtain ⟨limited, inOrder, bound⟩ := Limit.of_parse_intRange form parsed
  have fits := bound.trans (Limit.greatestBound_le _)
  have validates : spec.validator = some Validator.float := by
    rw [sound.validator, unvalidated, float]
    rfl
  refine ⟨inOrder, by omega, fun x => ?_⟩
  rw [validate, validates]
  show (Validator.againstLimit spec.toField _).mapError _ = _
  rw [Validator.againstLimit, limited]
  rfl

theorem mapError_eq_ok_iff {α β : Type} {f : α → β} {result : Except α Unit} :
    result.mapError f = .ok () ↔ result = .ok () := by
  cases result <;> simp [Except.mapError]

theorem of_mapError_eq_error {α β : Type} {f : α → β} {result : Except α Unit} {e : β}
    (fails : result.mapError f = .error e) : ∃ fault, result = .error fault ∧ f fault = e := by
  cases result with
  | error fault => exact ⟨fault, rfl, Except.error.inj fails⟩
  | ok => cases fails

/-- The numbers that are accepted are those in range and those nearest to a bound. -/
theorem Made.validate_float_in_range (known : r.History history) (made : Made r d spec)
    (float : spec.fieldType = .builtin .float) (unvalidated : d.validator = none)
    (form : Limit.IntRange spec.limitExpr.toList least greatest) {x : Binary64}
    (valid : x.isNaN = false) :
    (spec.validate (.float x) = .ok () ↔
      (Decimal.digitsValue least ≤ x.number ∨ x.NearestTo (Decimal.digitsValue least)) ∧
      (x.number ≤ Decimal.digitsValue greatest ∨ x.NearestTo (Decimal.digitsValue greatest))) ∧
    (∀ e, spec.validate (.float x) = .error e →
      e.code = "too_low" ∧ x.number < Decimal.digitsValue least ∨
      e.code = "too_high" ∧ Decimal.digitsValue greatest < x.number) ∧
    (Decimal.digitsValue greatest ≤ 2 ^ 53 → (spec.validate (.float x) = .ok () ↔
      Decimal.digitsValue least ≤ x.number ∧ x.number ≤ Decimal.digitsValue greatest)) := by
  obtain ⟨inOrder, bound, validates⟩ := made.validate_float known float unvalidated form
  have nearLeast := Binary64.nearestTo_ofInt (n := Decimal.digitsValue least) (by omega)
  have nearGreatest := Binary64.nearestTo_ofInt (n := Decimal.digitsValue greatest) (by omega)
  have notLow := nearLeast.lt_eq_false_iff valid
  have notHigh := nearGreatest.gt_eq_false_iff valid
  have accepted : spec.validate (.float x) = .ok () ↔
      (Decimal.digitsValue least ≤ x.number ∨ x.NearestTo (Decimal.digitsValue least)) ∧
      (x.number ≤ Decimal.digitsValue greatest ∨ x.NearestTo (Decimal.digitsValue greatest)) := by
    rw [validates, mapError_eq_ok_iff, Validator.checkFloatRange_eq_ok_iff, notLow, notHigh]
  refine ⟨accepted, ?refused, ?exact⟩
  case refused =>
    intro e refused
    rw [validates] at refused
    obtain ⟨fault, checked, rfl⟩ := of_mapError_eq_error refused
    rcases Validator.of_checkFloatRange checked with ⟨rfl, low⟩ | ⟨rfl, high⟩
    · rw [← Bool.not_eq_false, notLow, not_or, not_le] at low
      exact .inl ⟨rfl, low.1⟩
    · rw [← Bool.not_eq_false, notHigh, not_or, not_le] at high
      exact .inr ⟨rfl, high.1⟩
  case exact =>
    intro few
    have least (near : x.NearestTo (Decimal.digitsValue least)) :
        Decimal.digitsValue least ≤ x.number := (near.number_eq (inOrder.trans few)).ge
    have greatest (near : x.NearestTo (Decimal.digitsValue greatest)) :
        x.number ≤ Decimal.digitsValue greatest := (near.number_eq few).le
    rw [accepted, or_iff_left_of_imp least, or_iff_left_of_imp greatest]

/-- A field with a lower bound that is no double. -/
def wideDraft : SpecDraft :=
  { SpecDraft.requiring "dose" "float" with limit := "9007199254740993-9223372036854775807" }

def wideSpec : FieldSpec where
  key := "dose"
  typeName := "float"
  required := true
  limitExpr := "9007199254740993-9223372036854775807"
  name := "dose"
  limit := some (.intRange 9007199254740993 9223372036854775807)
  validator := some Validator.float
  fieldType := .builtin .float

theorem build_wideDraft : wideDraft.build .builtin = .ok wideSpec := rfl

def twoPow : Binary64 := ⟨0x4340000000000000⟩

theorem number_twoPow : twoPow.number = ((2 ^ 53 : Nat) : WithBot (WithTop ℚ)) := by
  have finite : twoPow.isFinite = true := by decide
  have sign : twoPow.isNegative = false := by decide
  have significand : twoPow.significand = 2 ^ 52 := by decide
  have exponent : twoPow.exponent = 1 := by decide
  have value : twoPow.toRat = (2 ^ 53 : Nat) := by
    rw [Binary64.toRat, sign, significand, exponent]
    norm_num
  rw [Binary64.number_of_isFinite finite, value]
  norm_cast

theorem twoPow_lt : twoPow.number < ((9007199254740993 : Nat) : WithBot (WithTop ℚ)) := by
  rw [number_twoPow]
  norm_cast

/-- The double nearest to the lower bound is accepted, although it is below it. -/
theorem validate_nearest_to_bound :
    wideSpec.validate (.float twoPow) = .ok () ∧ twoPow.NearestTo 9007199254740993 := by
  have form : Limit.IntRange wideSpec.limitExpr.toList "9007199254740993".toList
      "9223372036854775807".toList :=
    ⟨by decide, by simp [Decimal.Digits], by simp [Decimal.Digits]⟩
  have lowest : Decimal.digitsValue "9007199254740993".toList = 9007199254740993 := by decide
  have accepted : wideSpec.validate (.float twoPow) = .ok () := rfl
  obtain ⟨means, _⟩ := Made.validate_float_in_range .builtin (.built build_wideDraft) rfl rfl form
    (x := twoPow) (by decide)
  rw [lowest] at means
  exact ⟨accepted, (means.1 accepted).1.resolve_left twoPow_lt.not_ge⟩

theorem validate_out_of_range :
    (wideDraft.build .builtin = .ok wideSpec ∧ wideSpec.validate (.float twoPow) = .ok () ∧
      twoPow.number < ((9007199254740993 : Nat) : WithBot (WithTop ℚ))) ∧
    ∃ spec, SpecDraft.build { SpecDraft.requiring "dose" "float" with limit := "1-4" } .builtin =
        .ok spec ∧
      spec.validate (.float .nan) = .ok () ∧ Binary64.nan.isNaN = true :=
  ⟨⟨build_wideDraft, rfl, twoPow_lt⟩, _, rfl, rfl, by decide⟩

end FieldSpec

end FormIntake
