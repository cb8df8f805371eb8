import FormIntake.Decoder

namespace FormIntake

def Field.complaintWith (f : Field) (suffix code : String) (params : Entries String) :
    ValidationError :=
  { message := f.name ++ " " ++ suffix, code, field := some f.key, params }

/-- The same outcome for two fields: one value, or one complaint about each of them. -/
inductive Relabelled {α : Type} (f g : Field) :
    Except ValidationError α → Except ValidationError α → Prop
  | ok (a : α) : Relabelled f g (.ok a) (.ok a)
  | error (suffix code : String) (params : Entries String) :
      Relabelled f g (.error (f.complaintWith suffix code params))
        (.error (g.complaintWith suffix code params))

namespace Relabelled

variable {α β : Type} {f g : Field} {left right : Except ValidationError α}

theorem ite {c : Prop} [Decidable c] {left' right' : Except ValidationError α}
    (yes : Relabelled f g left right) (no : Relabelled f g left' right') :
    Relabelled f g (if c then left else left') (if c then right else right') := by
  by_cases holds : c
  · rw [if_pos holds, if_pos holds]
    exact yes
  · rw [if_neg holds, if_neg holds]
    exact no

theorem bind {left' right' : α → Except ValidationError β} (first : Relabelled f g left right)
    (later : ∀ a, Relabelled f g (left' a) (right' a)) :
    Relabelled f g (left >>= left') (right >>= right') := by
  cases first with
  | ok a => exact later a
  | error suffix code params => exact .error suffix code params

theorem map (outcome : Relabelled f g left right) (h : α → β) :
    Relabelled f g (left.map h) (right.map h) := by
  cases outcome with
  | ok a => exact .ok (h a)
  | error suffix code params => exact .error suffix code params

theorem mapError_field (outcome : Relabelled f g left right) :
    left.mapError (fun e => { e with field := e.field.or (some f.key) }) = left := by
  cases outcome <;> rfl

end Relabelled

namespace Validator

variable {f g : Field}

theorem relabelled_require (good : Bool) (suffix code : String) (params : Entries String) :
    Relabelled f g (require good (f.complaintWith suffix code params))
      (require good (g.complaintWith suffix code params)) :=
  .ite (.ok ()) (.error suffix code params)

theorem relabelled_checkText (s : String) (limit : Limit) :
    Relabelled f g (checkText f s limit) (checkText g s limit) := by
  cases limit with
  | length n =>
    exact relabelled_require _ "has the wrong length" "length" [("length", toString n)]
  | intRange least greatest =>
    exact .ite (.error "is too short" "too_short" [("min", toString least)])
      (.ite (.error "is too long" "too_long" [("max", toString greatest)]) (.ok ()))
  | pattern source p =>
    exact relabelled_require _ "has the wrong format" "format" [("pattern", source)]
  | texts accepted => exact relabelled_require _ "has the wrong value" "choice" []
  | floatRange | ints => exact .ok ()

theorem relabelled_checkInt (n : Int) (limit : Limit) :
    Relabelled f g (checkInt f n limit) (checkInt g n limit) := by
  cases limit with
  | length length =>
    exact relabelled_require _ "has the wrong length" "length" [("length", toString length)]
  | intRange least greatest =>
    exact .ite (.error "is too low" "too_low" [("min", toString least)])
      (.ite (.error "is too high" "too_high" [("max", toString greatest)]) (.ok ()))
  | ints accepted => exact relabelled_require _ "has the wrong value" "choice" []
  | floatRange | texts | pattern => exact .ok ()

theorem relabelled_checkFloatRange (x least greatest : Binary64) :
    Relabelled f g (checkFloatRange f x least greatest) (checkFloatRange g x least greatest) :=
  .ite (.error "is too low" "too_low" [("min", least.text)])
    (.ite (.error "is too high" "too_high" [("max", greatest.text)]) (.ok ()))

theorem relabelled_checkFloat (x : Binary64) (limit : Limit) :
    Relabelled f g (checkFloat f x limit) (checkFloat g x limit) := by
  cases limit with
  | intRange | floatRange => exact relabelled_checkFloatRange x _ _
  | length | texts | ints | pattern => exact .ok ()

theorem relabelled_notA (value : FormValue) (expected : String) :
    Relabelled f g (.error (notA f value expected) : Except ValidationError Unit)
      (.error (notA g value expected)) :=
  .error ("is not a " ++ expected) "invalid" [("kind", value.kind)]

theorem againstLimit_of_none {check : Limit → Except ValidationError Unit}
    (unlimited : f.limit = none) : againstLimit f check = .ok () := by
  rw [againstLimit, unlimited]

theorem againstLimit_of_some {check : Limit → Except ValidationError Unit} {limit : Limit}
    (limited : f.limit = some limit) : againstLimit f check = check limit := by
  rw [againstLimit, limited]

theorem relabelled_againstLimit (same : f.limit = g.limit)
    {left right : Limit → Except ValidationError Unit}
    (checks : ∀ limit, Relabelled f g (left limit) (right limit)) :
    Relabelled f g (againstLimit f left) (againstLimit g right) := by
  cases limited : g.limit with
  | none =>
    rw [againstLimit_of_none (same.trans limited), againstLimit_of_none limited]
    exact .ok ()
  | some limit =>
    rw [againstLimit_of_some (same.trans limited), againstLimit_of_some limited]
    exact checks limit

theorem relabelled_of_kind {k : Kind} {validator : Validator}
    (standard : k.validator = some validator) (same : f.limit = g.limit) (value : FormValue) :
    Relabelled f g (validator f value) (validator g value) := by
  cases k with
  | string =>
    cases standard
    unfold text
    cases value.asText? with
    | none => exact relabelled_notA value "string"
    | some s => exact relabelled_againstLimit same (relabelled_checkText s)
  | int | int64 =>
    cases standard
    unfold integer
    cases value.asInt? with
    | none => exact relabelled_notA value "integer"
    | some n => exact relabelled_againstLimit same (relabelled_checkInt n)
  | float =>
    cases standard
    unfold float
    cases value.asFloat? with
    | none => exact relabelled_notA value "float"
    | some x => exact relabelled_againstLimit same (relabelled_checkFloat x)
  | bool | date | dateTime | dateFlex => cases standard

end Validator

def FieldSpec.run (spec : FieldSpec) (raw : String) (s : Settings) :
    Except ValidationError FormValue := do
  let value ← spec.convert raw s
  spec.validate value
  return value

theorem Decoder.clean_eq_run {σ : Type} [FormSource σ] (d : Decoder) (source : σ)
    (spec : FieldSpec) :
    d.clean source spec =
      if d.rawValue source spec = "" ∧ spec.required then
        .error (spec.complaint "is required" "required")
      else spec.run (d.rawValue source spec) d.settings := rfl

namespace FieldSpec

/-- `copy` has come of `original` by copying any number of times. -/
inductive CopyOf (original : FieldSpec) : FieldSpec → Prop
  | original : CopyOf original original
  | copied {spec copy : FieldSpec} {key : String} {name : Option String}
      (before : CopyOf original spec) (found : spec.copy key name = .ok copy) :
      CopyOf original copy

variable {spec copy : FieldSpec} {k : Kind}

theorem validate_of_kind {validator : Validator} (validates : spec.validator = some validator)
    (standard : k.validator = some validator) (value : FormValue) :
    spec.validate value = validator spec.toField value := by
  -- relabelling a field as itself shows that each complaint names the field already
  have own :=
    Validator.relabelled_of_kind (f := spec.toField) (g := spec.toField) standard rfl value
  rw [validate, validates]
  exact own.mapError_field

theorem run_of_converted {raw : String} {s : Settings} {value : FormValue}
    (converts : spec.fieldType.convert raw s = some value) :
    spec.run raw s = (spec.validate value).map fun _ => value := by
  rw [run, FieldSpec.convert, converts]
  simp only [bind, Except.bind]
  cases spec.validate value <;> rfl

theorem run_of_unconverted {raw : String} {s : Settings}
    (fails : spec.fieldType.convert raw s = none) :
    spec.run raw s =
      .error (spec.complaintWith ("could not be converted to " ++ spec.typeName) "invalid" []) := by
  rw [run, FieldSpec.convert, fails]
  rfl

theorem of_copy {key : String} {name : Option String} (found : spec.copy key name = .ok copy) :
    copy = { spec with key := copy.key, name := copy.name } := by
  unfold FieldSpec.copy at found
  dsimp only at found
  split at found
  · cases found
  · cases found
    rfl

theorem CopyOf.eq (copied : CopyOf spec copy) :
    copy = { spec with key := copy.key, name := copy.name } := by
  induction copied with
  | original => rfl
  | copied before found ih =>
    have last := of_copy found
    rw [ih] at last
    exact last

theorem CopyOf.validate (copied : CopyOf spec copy) (standard : spec.validator = k.validator)
    (value : FormValue) :
    Relabelled spec.toField copy.toField (spec.validate value) (copy.validate value) := by
  have same : copy.validator = spec.validator := by rw [copied.eq]
  have limit : spec.limit = copy.limit := by rw [copied.eq]
  cases validates : k.validator with
  | none =>
    rw [validates] at standard
    rw [standard] at same
    simp only [FieldSpec.validate, standard, same]
    exact .ok ()
  | some validator =>
    rw [validates] at standard
    rw [standard] at same
    rw [validate_of_kind standard validates, validate_of_kind same validates]
    exact Validator.relabelled_of_kind validates limit value

theorem CopyOf.convert (copied : CopyOf spec copy) (raw : String) (s : Settings) :
    Relabelled spec.toField copy.toField (spec.convert raw s) (copy.convert raw s) := by
  have type : copy.fieldType = spec.fieldType := by rw [copied.eq]
  have named : copy.typeName = spec.typeName := by rw [copied.eq]
  unfold FieldSpec.convert
  rw [type, named]
  cases spec.fieldType.convert raw s with
  | some value => exact .ok value
  | none => exact .error ("could not be converted to " ++ spec.typeName) "invalid" []

theorem CopyOf.run (copied : CopyOf spec copy) (standard : spec.validator = k.validator)
    (raw : String) (s : Settings) :
    Relabelled spec.toField copy.toField (spec.run raw s) (copy.run raw s) := by
  refine (copied.convert raw s).bind fun value => ?_
  exact (copied.validate standard value).bind fun _ => .ok value

/-- A copy judges every raw text and every value as the original does, and so does a decoder that
finds one raw text for both. Only the key and the name in complaints are those of the copy. -/
theorem CopyOf.relabels (copied : CopyOf spec copy) (standard : spec.validator = k.validator) :
    (∀ raw s, Relabelled spec.toField copy.toField (spec.run raw s) (copy.run raw s)) ∧
    (∀ value, Relabelled spec.toField copy.toField (spec.validate value) (copy.validate value)) ∧
    ∀ {σ : Type} [FormSource σ] (d : Decoder) (source : σ),
      d.rawValue source copy = d.rawValue source spec →
      Relabelled spec.toField copy.toField (d.clean source spec) (d.clean source copy) := by
  refine ⟨copied.run standard, copied.validate standard, fun d source found => ?_⟩
  have required : copy.required = spec.required := by rw [copied.eq]
  rw [d.clean_eq_run source spec, d.clean_eq_run source copy, found, required]
  exact .ite (.error "is required" "required" []) (copied.run standard _ _)

def ageSpec : FieldSpec where
  key := "own"
  typeName := "int"
  required := true
  limitExpr := "18-99"
  name := "Own age"
  limit := some (.intRange 18 99)
  validator := some Validator.integer
  fieldType := .builtin .int

def copiedAge (key name : String) : FieldSpec := { ageSpec with key, name }

/-- The second copy has its key for a name, without the white space around it. -/
theorem CopyOf.relabels_twice :
    ageSpec.copy "child" (some "The child") = .ok (copiedAge "child" "The child") ∧
      (copiedAge "child" "The child").copy " parent " none = .ok (copiedAge "parent" "parent") ∧
      Relabelled ageSpec.toField (copiedAge "parent" "parent").toField
        (ageSpec.validate (.text "7")) ((copiedAge "parent" "parent").validate (.text "7")) ∧
      ageSpec.validate (.text "7") = .error
        { message := "Own age is not a integer", code := "invalid", field := some "own"
          params := [("kind", "string")] } ∧
      (copiedAge "parent" "parent").validate (.text "7") = .error
        { message := "parent is not a integer", code := "invalid", field := some "parent"
          params := [("kind", "string")] } := by
  have first : ageSpec.copy "child" (some "The child") = .ok (copiedAge "child" "The child") := rfl
  have second : (copiedAge "child" "The child").copy " parent " none =
      .ok (copiedAge "parent" "parent") := rfl
  have copied : CopyOf ageSpec (copiedAge "parent" "parent") :=
    .copied (.copied .original first) second
  have standard : ageSpec.validator = Kind.int.validator := rfl
  obtain ⟨_, values, _⟩ := CopyOf.relabels copied standard
  exact ⟨first, second, values _, rfl, rfl⟩

end FieldSpec

end FormIntake
