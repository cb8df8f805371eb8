import FormIntake.Proofs.Field.Limit

namespace FormIntake.Limit

open Decimal

variable {typeName expr : String} {limit : Option Limit} {least greatest : List Char}
  {items : List (List Char)}

theorem of_parse_empty (empty : expr = "") (parsed : parse typeName expr = .ok limit) :
    limit = none := by
  rw [parse_of_means (.unlimited empty)] at parsed
  exact (Except.ok.inj parsed).symm

theorem of_parse_marked {source : List Char} (marked : expr.toList = 'r' :: 'e' :: ':' :: source)
    (parsed : parse typeName expr = .ok limit) :
    ∃ p, Pattern.read (String.ofList source) = some p ∧
      limit = some (.pattern (String.ofList source) p) := by
  rw [parse_of_marked marked] at parsed
  cases reads : Pattern.read (String.ofList source) with
  | none => rw [reads] at parsed; cases parsed
  | some p => rw [reads] at parsed; exact ⟨p, rfl, (Except.ok.inj parsed).symm⟩

theorem of_parse_positive (form : Positive expr.toList)
    (parsed : parse typeName expr = .ok limit) :
    limit = some (.length (digitsValue expr.toList)) := by
  rw [parse_of_positive form] at parsed
  split at parsed
  · split at parsed
    · exact (Except.ok.inj parsed).symm
    · cases parsed
  · cases parsed

theorem of_parse_intRange (form : IntRange expr.toList least greatest)
    (parsed : parse typeName expr = .ok limit) :
    limit = some (.intRange (digitsValue least) (digitsValue greatest)) ∧
      digitsValue least ≤ digitsValue greatest ∧
      digitsValue greatest ≤ greatestBound typeName := by
  rw [parse_of_intRange form, parseIntRange_of_digits form.least form.greatest] at parsed
  by_cases fits : digitsValue least ≤ greatestBound typeName ∧
      digitsValue greatest ≤ greatestBound typeName
  · rw [if_pos fits] at parsed
    by_cases reversed : digitsValue greatest < digitsValue least
    · rw [if_pos reversed] at parsed
      cases parsed
    · rw [if_neg reversed] at parsed
      cases parsed
      exact ⟨rfl, Nat.le_of_not_lt reversed, fits.2⟩
  · rw [if_neg fits] at parsed
    cases parsed

theorem greatestBound_le (typeName : String) : greatestBound typeName ≤ 2 ^ 63 - 1 := by
  unfold greatestBound
  split <;> decide

theorem of_parse_texts (form : Listing expr.toList items)
    (parsed : parse "string" expr = .ok limit) :
    limit = some (.texts (items.map String.ofList)) := by
  rw [parse_of_listing form] at parsed
  split at parsed
  · cases parsed
  · exact (Except.ok.inj parsed).symm

theorem of_parse_ints (type : typeName ∈ ["int", "int64"]) (form : Listing expr.toList items)
    (parsed : parse typeName expr = .ok limit) :
    ∃ accepted, limit = some (.ints accepted) ∧ List.Forall₂ Accepts items accepted := by
  have notText : typeName ≠ "string" := by rintro rfl; simp at type
  rw [parse_of_listing form, if_neg notText, if_pos type] at parsed
  split at parsed
  · cases parsed
  · rcases accepts_or_fails items with ⟨accepted, accepts⟩ | ⟨_, _, _, fault, rfl, good, fails⟩
    · rw [mapM_parseItem_of_accepts accepts] at parsed
      exact ⟨accepted, (Except.ok.inj parsed).symm, accepts⟩
    · rw [mapM_parseItem_of_fails good fails] at parsed
      cases parsed

theorem exists_form (parsed : parse typeName expr = .ok limit) :
    expr = "" ∨ (∃ source, expr.toList = 'r' :: 'e' :: ':' :: source) ∨ Positive expr.toList ∨
      (∃ least greatest, IntRange expr.toList least greatest) ∨ typeName = "float" ∨
      ∃ items, Listing expr.toList items := by
  have means := parse_eq_iff_means.1 parsed
  cases means with
  | unlimited empty => exact .inl empty
  | pattern marked => exact .inr (.inl ⟨_, marked⟩)
  | length form => exact .inr (.inr (.inl form))
  | intRange form => exact .inr (.inr (.inr (.inl ⟨_, _, form⟩)))
  | floatRange form type => exact .inr (.inr (.inr (.inr (.inl type))))
  | texts form | ints form => exact .inr (.inr (.inr (.inr (.inr ⟨_, form⟩))))

end FormIntake.Limit
