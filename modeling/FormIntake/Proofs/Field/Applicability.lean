import FormIntake.Field.Spec
import FormIntake.Proofs.Field.Limit
import Mathlib.Data.List.Basic

namespace FormIntake

namespace Kind

def Takes (k : Kind) : Limit → Prop
  | .length _ => k ∈ [string, int, int64]
  | .intRange .. => k ∈ [string, int, int64, float]
  | .floatRange .. => k = float
  | .texts _ | .pattern .. => k = string
  | .ints _ => k ∈ [int, int64]

theorem name_injective : Function.Injective name := by
  intro k other same
  cases k <;> cases other <;> first | rfl | exact absurd same (by decide)

theorem name_mem_map_iff {k : Kind} {kinds : List Kind} : k.name ∈ kinds.map name ↔ k ∈ kinds :=
  List.mem_map_of_injective name_injective

theorem validator_eq_none_iff {k : Kind} :
    k.validator = none ↔ k ∉ [string, int, int64, float] := by
  cases k <;> simp [validator]

end Kind

theorem Registry.lookup_builtin (k : Kind) : builtin.lookup k.name = some (.builtin k) := by
  cases k <;> rfl

theorem Limit.Means.isConfiguration {typeName expr : String} {e : FormError}
    (means : Means typeName expr (.error e)) : e.isConfiguration = true := by
  cases means <;> rfl

theorem Limit.Means.not_takes_iff {k : Kind} {expr : String} {limit : Limit}
    (unmarked : ∀ source, expr.toList ≠ 'r' :: 'e' :: ':' :: source)
    (means : Means k.name expr (.ok (some limit))) :
    ¬ k.Takes limit ↔
      k.validator = none ∧ ∃ least greatest, IntRange expr.toList least greatest := by
  rw [Kind.validator_eq_none_iff]
  cases means with
  | pattern marked reads => exact absurd marked (unmarked _)
  | intRange form leastFits greatestFits inOrder =>
    exact (and_iff_left ⟨_, _, form⟩).symm
  | length form type fits =>
    have takes : k ∈ [.string, .int, .int64] := Kind.name_mem_map_iff.1 type
    simp_all [Kind.Takes]
    tauto
  | floatRange form type inOrder =>
    have takes : k = .float := Kind.name_injective type
    simp [Kind.Takes, takes]
  | texts form full type =>
    have takes : k = .string := Kind.name_injective type
    simp [Kind.Takes, takes]
  | ints form full type accepts =>
    have takes : k ∈ [.int, .int64] := Kind.name_mem_map_iff.1 type
    simp_all [Kind.Takes]
    tauto

namespace SpecDraft

variable {k : Kind} {d : SpecDraft}

theorem build_of_name (named : d.typeName = k.name) (keyed : Text.trim d.key ≠ "") :
    d.build .builtin = (Limit.parse k.name d.limit).map fun limit =>
      { key := Text.trim d.key
        typeName := d.typeName
        required := d.required
        limitExpr := d.limit
        name := shownName (Text.trim d.key) d.name
        limit
        validator := d.validator.or k.validator
        fieldType := .builtin k } := by
  have reads : readLimit (.builtin k) k.name d.limit = Limit.parse k.name d.limit := rfl
  simp only [build, keyed, ↓reduceIte, named, Registry.lookup_builtin, reads]
  cases Limit.parse k.name d.limit <;> rfl

/-- A limit that is accepted is for the type of its field. Only a range of integers is accepted for
a type without a validator too, where no value is held against it. -/
theorem build_limited (named : d.typeName = k.name) (keyed : Text.trim d.key ≠ "")
    (limited : d.limit ≠ "") (unmarked : ∀ source, d.limit.toList ≠ 'r' :: 'e' :: ':' :: source) :
    (∃ e, d.build .builtin = .error e ∧ e.isConfiguration = true) ∨
      ∃ spec limit, d.build .builtin = .ok spec ∧ spec.limit = some limit ∧
        (¬ k.Takes limit ↔
          k.validator = none ∧ ∃ least greatest, Limit.IntRange d.limit.toList least greatest) := by
  rw [build_of_name named keyed]
  obtain ⟨result, means⟩ := Limit.exists_means k.name d.limit
  rw [Limit.parse_of_means means]
  match result, means with
  | .error e, means => exact .inl ⟨e, rfl, means.isConfiguration⟩
  | .ok (some limit), means => exact .inr ⟨_, limit, rfl, rfl, means.not_takes_iff unmarked⟩
  | .ok none, .unlimited empty => exact absurd empty limited

theorem build_limited_date :
    ∃ e, SpecDraft.build { requiring "from" "date" with limit := "1,2" } .builtin = .error e ∧
      e.isConfiguration = true := by
  have named : (requiring "from" "date").typeName = Kind.date.name := rfl
  have keyed : Text.trim "from" ≠ "" := by decide
  have unmarked (source : List Char) : "1,2".toList ≠ 'r' :: 'e' :: ':' :: source := by simp
  rcases build_limited (d := { requiring "from" "date" with limit := "1,2" }) named keyed
    (by decide) unmarked with refused | ⟨spec, limit, accepted, _⟩
  · exact refused
  · cases accepted

theorem build_bool_range :
    ∃ spec, SpecDraft.build { requiring "agreed" "bool" with limit := "1-10" } .builtin = .ok spec ∧
      spec.limit = some (.intRange 1 10) ∧ ¬ Kind.bool.Takes (.intRange 1 10) ∧
      ∀ value, spec.validate value = .ok () := by
  refine ⟨_, rfl, rfl, ?_, fun _ => rfl⟩
  simp [Kind.Takes]

end SpecDraft

end FormIntake
