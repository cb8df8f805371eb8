import FormIntake.Proofs.Field.Accepted
import FormIntake.Proofs.Field.Relabelling
import FormIntake.Proofs.Field.Spec
import FormIntake.Proofs.Number.DecimalText

namespace FormIntake

open Limit Decimal

/-- What becomes of a text that is held against the limit expression of its field. -/
inductive TextVerdict (f : Field) (s : String) : Except ValidationError Unit → Prop
  | unlimited (empty : f.limitExpr = "") : TextVerdict f s (.ok ())
  | fits (form : Positive f.limitExpr.toList)
      (same : Text.glyphLength s = digitsValue f.limitExpr.toList) : TextVerdict f s (.ok ())
  | wrongLength (form : Positive f.limitExpr.toList)
      (differs : Text.glyphLength s ≠ digitsValue f.limitExpr.toList) :
      TextVerdict f s (.error (f.complaintWith "has the wrong length" "length"
        [("length", toString (digitsValue f.limitExpr.toList))]))
  | inRange {least greatest : List Char} (form : IntRange f.limitExpr.toList least greatest)
      (low : digitsValue least ≤ Text.glyphLength s)
      (high : Text.glyphLength s ≤ digitsValue greatest) : TextVerdict f s (.ok ())
  | tooShort {least greatest : List Char} (form : IntRange f.limitExpr.toList least greatest)
      (short : Text.glyphLength s < digitsValue least) :
      TextVerdict f s (.error (f.complaintWith "is too short" "too_short"
        [("min", toString (digitsValue least))]))
  | tooLong {least greatest : List Char} (form : IntRange f.limitExpr.toList least greatest)
      (long : digitsValue greatest < Text.glyphLength s) :
      TextVerdict f s (.error (f.complaintWith "is too long" "too_long"
        [("max", toString (digitsValue greatest))]))
  | matching {source : List Char} {p : Pattern}
      (marked : f.limitExpr.toList = 'r' :: 'e' :: ':' :: source)
      (reads : Pattern.read (String.ofList source) = some p)
      (occurs : p.occursIn s.toList = true) : TextVerdict f s (.ok ())
  | wrongFormat {source : List Char} {p : Pattern}
      (marked : f.limitExpr.toList = 'r' :: 'e' :: ':' :: source)
      (reads : Pattern.read (String.ofList source) = some p)
      (absent : p.occursIn s.toList = false) :
      TextVerdict f s (.error (f.complaintWith "has the wrong format" "format"
        [("pattern", String.ofList source)]))
  | listed {items : List (List Char)} (form : Listing f.limitExpr.toList items)
      (member : s.toList ∈ items) : TextVerdict f s (.ok ())
  | wrongValue {items : List (List Char)} (form : Listing f.limitExpr.toList items)
      (absent : s.toList ∉ items) :
      TextVerdict f s (.error (f.complaintWith "has the wrong value" "choice" []))

namespace Validator

variable {f : Field} {s : String} {limit : Limit} {verdict : Except ValidationError Unit}

theorem text_of_limit (limited : f.limit = some limit) :
    text f (.text s) = checkText f s limit := againstLimit_of_some limited

theorem require_eq_ok_iff {good : Bool} {e : ValidationError} :
    require good e = .ok () ↔ good = true := by
  cases good <;> simp [require]

theorem contains_ofList {items : List (List Char)} :
    (items.map String.ofList).contains s = true ↔ s.toList ∈ items := by
  rw [List.contains_iff_mem, List.mem_map]
  constructor
  · rintro ⟨item, member, rfl⟩
    rw [String.toList_ofList]
    exact member
  · intro member
    exact ⟨s.toList, member, String.ofList_toList⟩

theorem text_of_verdict (parsed : parse "string" f.limitExpr = .ok f.limit)
    (judged : TextVerdict f s verdict) : text f (.text s) = verdict := by
  cases judged with
  | unlimited empty => exact againstLimit_of_none (of_parse_empty empty parsed)
  | fits form same =>
    rw [text_of_limit (of_parse_positive form parsed)]
    exact if_pos (decide_eq_true same)
  | wrongLength form differs =>
    rw [text_of_limit (of_parse_positive form parsed)]
    exact if_neg (by simpa using differs)
  | inRange form low high =>
    rw [text_of_limit (of_parse_intRange form parsed).1]
    exact (if_neg (by omega)).trans (if_neg (by omega))
  | tooShort form short =>
    rw [text_of_limit (of_parse_intRange form parsed).1]
    exact if_pos (by omega)
  | tooLong form long =>
    obtain ⟨limited, inOrder, _⟩ := of_parse_intRange form parsed
    rw [text_of_limit limited]
    exact (if_neg (by omega)).trans (if_pos (by omega))
  | matching marked reads occurs =>
    obtain ⟨p, found, limited⟩ := of_parse_marked marked parsed
    obtain rfl := Option.some.inj (reads.symm.trans found)
    rw [text_of_limit limited]
    exact if_pos occurs
  | wrongFormat marked reads absent =>
    obtain ⟨p, found, limited⟩ := of_parse_marked marked parsed
    obtain rfl := Option.some.inj (reads.symm.trans found)
    rw [text_of_limit limited]
    exact if_neg (by simp [absent])
  | listed form member =>
    rw [text_of_limit (of_parse_texts form parsed)]
    exact if_pos (contains_ofList.2 member)
  | wrongValue form absent =>
    rw [text_of_limit (of_parse_texts form parsed)]
    exact if_neg (contains_ofList.not.2 absent)

theorem exists_textVerdict (parsed : parse "string" f.limitExpr = .ok f.limit) (s : String) :
    ∃ verdict, TextVerdict f s verdict := by
  obtain empty | ⟨source, marked⟩ | form | ⟨least, greatest, form⟩ | float | ⟨items, form⟩ :=
    exists_form parsed
  · exact ⟨_, .unlimited empty⟩
  · obtain ⟨p, reads, _⟩ := of_parse_marked marked parsed
    cases occurs : p.occursIn s.toList with
    | true => exact ⟨_, .matching marked reads occurs⟩
    | false => exact ⟨_, .wrongFormat marked reads occurs⟩
  · by_cases same : Text.glyphLength s = digitsValue f.limitExpr.toList
    · exact ⟨_, .fits form same⟩
    · exact ⟨_, .wrongLength form same⟩
  · rcases Nat.lt_or_ge (Text.glyphLength s) (digitsValue least) with short | low
    · exact ⟨_, .tooShort form short⟩
    · rcases Nat.lt_or_ge (digitsValue greatest) (Text.glyphLength s) with long | high
      · exact ⟨_, .tooLong form long⟩
      · exact ⟨_, .inRange form low high⟩
  · exact absurd float (by decide)
  · by_cases member : s.toList ∈ items
    · exact ⟨_, .listed form member⟩
    · exact ⟨_, .wrongValue form member⟩

theorem text_eq_iff (parsed : parse "string" f.limitExpr = .ok f.limit) :
    text f (.text s) = verdict ↔ TextVerdict f s verdict := by
  constructor
  · rintro rfl
    obtain ⟨verdict, judged⟩ := exists_textVerdict parsed s
    rw [text_of_verdict parsed judged]
    exact judged
  · exact text_of_verdict parsed

end Validator

theorem Limit.positive_toString {n : Nat} (positive : 0 < n) :
    Positive (toString n).toList ∧ digitsValue (toString n).toList = n := by
  rw [Nat.toString_eq_repr, Nat.toList_repr]
  exact ⟨⟨digits_toDigits n, head?_toDigits positive⟩, digitsValue_toDigits n⟩

namespace FieldSpec

variable {spec : FieldSpec}

/-- A text is judged by the form of the limit expression. The decimal text of every number from one
to the greatest of 32 bits is the limit of the texts with just so many glyphs. -/
theorem OfKind.validate_text (string : OfKind .string spec) :
    (∀ s verdict, spec.validate (.text s) = verdict ↔ TextVerdict spec.toField s verdict) ∧
    ∀ n : Nat, 0 < n → n ≤ 2 ^ 31 - 1 →
      Limit.parse "string" (toString n) = .ok (some (.length n)) ∧
      (spec.limitExpr = toString n →
        ∀ s, spec.validate (.text s) = .ok () ↔ n = Text.glyphLength s) := by
  have validates (s : String) : spec.validate (.text s) = Validator.text spec.toField (.text s) :=
    validate_of_kind (k := .string) string.validator rfl (.text s)
  have judges (s : String) (verdict : Except ValidationError Unit) :
      spec.validate (.text s) = verdict ↔ TextVerdict spec.toField s verdict := by
    rw [validates]
    exact Validator.text_eq_iff string.limited
  refine ⟨judges, fun n positive fits => ?_⟩
  obtain ⟨form, value⟩ := Limit.positive_toString positive
  have parsed : Limit.parse "string" (toString n) = .ok (some (.length n)) := by
    rw [Limit.parse_of_positive form, value, if_pos (by decide), if_pos fits]
  refine ⟨parsed, fun written s => ?_⟩
  have limited : spec.limit = some (.length n) := by
    have own := string.limited
    rw [written] at own
    exact Except.ok.inj (own.symm.trans parsed)
  rw [validates, Validator.text_of_limit limited, eq_comm (a := n)]
  exact Validator.require_eq_ok_iff.trans decide_eq_true_iff

def nickname : FieldSpec where
  key := "nick"
  typeName := "string"
  required := true
  limitExpr := "02-3"
  name := "nick"
  limit := some (.intRange 2 3)
  validator := some Validator.text
  fieldType := .builtin .string

theorem build_nickname :
    SpecDraft.build { SpecDraft.requiring "nick" "string" with limit := "02-3" } .builtin =
      .ok nickname := rfl

/-- Two characters that are one glyph, and a bound with a zero in front. -/
theorem OfKind.validate_text_combined :
    OfKind .string nickname ∧
      nickname.validate (.text "e\u0301") = .error
        { message := "nick is too short", code := "too_short", field := some "nick"
          params := [("min", "2")] } := by
  have string : OfKind .string nickname := .intro .builtin (.built build_nickname) rfl rfl rfl
  have form : IntRange nickname.limitExpr.toList ['0', '2'] ['3'] :=
    ⟨rfl, by simp [Digits], by simp [Digits]⟩
  have short : Text.glyphLength "e\u0301" < digitsValue ['0', '2'] := by decide +kernel
  obtain ⟨judges, _⟩ := string.validate_text
  exact ⟨string, (judges _ _).2 (.tooShort form short)⟩

end FieldSpec

end FormIntake
