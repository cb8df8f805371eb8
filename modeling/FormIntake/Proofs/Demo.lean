import FormIntake.Demo
import FormIntake.Proofs.Decoder.Verdict
import FormIntake.Proofs.Field.Conversion
import FormIntake.Proofs.Query.Values
import Mathlib.Data.List.ReduceOption

namespace FormIntake.Demo

/-- The text for a field, without the white space around it: the first one that came for the key in
the body, or else in the query. -/
def rawText (body : String) (query : Option String) (key : String) : String :=
  Text.trim ((((Urlencoded.pairs body.toList).lookup key).or
    (query.bind fun query => (Urlencoded.pairs query.toList).lookup key)).getD "")

inductive VariantVerdict (raw : String) : Except String String → Prop
  | missing (empty : raw = "") : VariantVerdict raw (.error "The 4-letter variant is required")
  | wrongLength (present : raw ≠ "") (wrong : Text.glyphLength raw ≠ 4) :
      VariantVerdict raw (.error "The 4-letter variant has the wrong length")
  | good (four : Text.glyphLength raw = 4) : VariantVerdict raw (.ok raw)

inductive SizeVerdict (raw : String) : Except String IntWidth.i32.Value → Prop
  | missing (empty : raw = "") : SizeVerdict raw (.error "The size (1-4) is required")
  | noInteger (present : raw ≠ "")
      (fails : ∀ n : IntWidth.i32.Value, ¬ Integer.Writes raw.toList n.val) :
      SizeVerdict raw (.error "The size (1-4) could not be converted to int")
  | tooLow {n : IntWidth.i32.Value} (writes : Integer.Writes raw.toList n.val) (low : n.val < 1) :
      SizeVerdict raw (.error "The size (1-4) is too low")
  | tooHigh {n : IntWidth.i32.Value} (writes : Integer.Writes raw.toList n.val)
      (high : 4 < n.val) : SizeVerdict raw (.error "The size (1-4) is too high")
  | good {n : IntWidth.i32.Value} (writes : Integer.Writes raw.toList n.val) (low : 1 ≤ n.val)
      (high : n.val ≤ 4) : SizeVerdict raw (.ok n)

inductive StrengthVerdict (raw : String) : Except String Binary64 → Prop
  | missing (empty : raw = "") : StrengthVerdict raw (.ok .zero)
  | noDouble (present : raw ≠ "")
      (fails : ∀ x, Decimal.read raw.toList = some x → x.isFinite = false) :
      StrengthVerdict raw (.error "Flubber strength could not be converted to float")
  | good {x : Binary64} (reads : Decimal.read raw.toList = some x)
      (finite : x.isFinite = true) : StrengthVerdict raw (.ok x)

/-- Fields that are all good, with the record that they describe. -/
structure Good (body : String) (query : Option String) (f : Flubber) : Prop where
  variant : f.variant = rawText body query "variant"
  four : Text.glyphLength f.variant = 4
  size : Integer.Writes (rawText body query "size").toList f.size.val
  low : 1 ≤ f.size.val
  high : f.size.val ≤ 4
  strength : rawText body query "strength" = "" ∧ f.strength = .zero ∨
    Decimal.read (rawText body query "strength").toList = some f.strength ∧
      f.strength.isFinite = true

def variantSpec : FieldSpec where
  key := "variant"
  typeName := "string"
  required := true
  limitExpr := "4"
  name := "The 4-letter variant"
  limit := some (.length 4)
  validator := some Validator.text
  fieldType := .builtin .string

def sizeSpec : FieldSpec where
  key := "size"
  typeName := "int"
  required := true
  limitExpr := "1-4"
  name := "The size (1-4)"
  limit := some (.intRange 1 4)
  validator := some Validator.integer
  fieldType := .builtin .int

def strengthSpec : FieldSpec where
  key := "strength"
  typeName := "float"
  required := false
  limitExpr := ""
  name := "Flubber strength"
  limit := none
  validator := some Validator.float
  fieldType := .builtin .float

theorem specs_eq : Flubber.specs = .ok [variantSpec, sizeSpec, strengthSpec] := rfl

theorem values_formValues (body : String) (query : Option String) (key : String) :
    (formValues body query).get? key =
      ((Urlencoded.pairs body.toList).lookup key).or
        (query.bind fun query => (Urlencoded.pairs query.toList).lookup key) := by
  rw [Query.get?_eq_head?]
  cases query with
  | none =>
    simp [formValues, Query.parse, Query.values_ofList, Query.head?_valuesOf]
  | some query =>
    simp [formValues, Query.parse, Query.values_merge, Query.values_ofList, Query.head?_valuesOf,
      List.head?_append]

theorem rawValue_formValues (body : String) (query : Option String) (spec : FieldSpec) :
    Decoder.standard.rawValue (formValues body query) spec = rawText body query spec.key := by
  have looked : FormSource.lookup? (formValues body query) spec.key =
    (formValues body query).get? spec.key := rfl
  rw [Decoder.rawValue, formValue, looked, values_formValues]
  rfl

section

variable {form : Query} {raw : String}

def told (form : Query) (spec : FieldSpec) : Except String FormValue :=
  (Decoder.standard.clean form spec).mapError (·.message)

theorem told_missing {spec : FieldSpec} (given : Decoder.standard.rawValue form spec = "")
    (required : spec.required = true) : told form spec = .error (spec.name ++ " is required") := by
  rw [told, Decoder.clean, if_pos ⟨given, required⟩, Decoder.complaint_required]
  rfl

theorem clean_of_present {spec : FieldSpec} (given : Decoder.standard.rawValue form spec = raw)
    (present : raw = "" → spec.required = false) :
    Decoder.standard.clean form spec = do
      let value ← spec.convert raw .standard
      spec.validate value
      return value := by
  have here : ¬ (raw = "" ∧ spec.required = true) := by
    rintro ⟨empty, required⟩
    exact absurd required (by simp [present empty])
  subst given
  rw [Decoder.clean, if_neg here]
  rfl

theorem told_unconverted {spec : FieldSpec} (given : Decoder.standard.rawValue form spec = raw)
    (present : raw = "" → spec.required = false)
    (fails : spec.fieldType.convert raw .standard = none) :
    told form spec = .error (spec.name ++ " could not be converted to " ++ spec.typeName) := by
  rw [told, clean_of_present given present, FieldSpec.convert, fails, Decoder.complaint_unconverted]
  rfl

theorem told_converted {spec : FieldSpec} {value : FormValue}
    (given : Decoder.standard.rawValue form spec = raw)
    (present : raw = "" → spec.required = false)
    (converts : spec.fieldType.convert raw .standard = some value) :
    told form spec = ((spec.validate value).map fun _ => value).mapError (·.message) := by
  rw [told, clean_of_present given present, FieldSpec.convert, converts]
  simp only [bind, Except.bind]
  cases spec.validate value <;> rfl

theorem told_variant (given : Decoder.standard.rawValue form variantSpec = raw)
    {verdict : Except String String} (judged : VariantVerdict raw verdict) :
    told form variantSpec = verdict.map .text := by
  have checks : variantSpec.validate (.text raw) =
      (Validator.require (Text.glyphLength raw = 4) (Validator.wrongLength variantSpec.toField 4)
        ).mapError fun e => { e with field := e.field.or (some "variant") } := rfl
  cases judged with
  | missing empty =>
    rw [told_missing (given.trans empty) rfl]
    rfl
  | wrongLength present wrong =>
    rw [told_converted given (absurd · present) rfl, checks]
    simp only [Validator.require, wrong, decide_false]
    rfl
  | good four =>
    have present : raw ≠ "" := by
      rintro rfl
      exact absurd four (by decide)
    rw [told_converted given (absurd · present) rfl, checks]
    simp only [Validator.require, four, decide_true]
    rfl

theorem told_size (given : Decoder.standard.rawValue form sizeSpec = raw)
    {verdict : Except String IntWidth.i32.Value} (judged : SizeVerdict raw verdict) :
    told form sizeSpec = verdict.map .int := by
  have reads : sizeSpec.fieldType.convert raw .standard =
      (Kind.readInt .i32 raw).map FormValue.int := rfl
  have signed : IntWidth.i32.least ≠ 0 := by decide
  -- Texts that write an integer are not empty, and this integer is what they are converted to.
  have converted {n : IntWidth.i32.Value} (writes : Integer.Writes raw.toList n.val) :
      told form sizeSpec =
        ((sizeSpec.validate (.int n)).map fun _ => .int n).mapError (·.message) := by
    have present : raw ≠ "" := by
      rintro rfl
      exact writes.ne_nil rfl
    refine told_converted given (absurd · present) ?_
    rw [reads, (Kind.readInt_eq_some_iff signed present).2 writes]
    rfl
  have checks (n : IntWidth.i32.Value) : sizeSpec.validate (.int n) =
      (if n.val < 1 then .error (Validator.tooLow sizeSpec.toField (toString (1 : Int)))
        else if 4 < n.val then .error (Validator.tooHigh sizeSpec.toField (toString (4 : Int)))
        else .ok () : Except ValidationError Unit).mapError
          fun e => { e with field := e.field.or (some "size") } := rfl
  cases judged with
  | missing empty =>
    rw [told_missing (given.trans empty) rfl]
    rfl
  | noInteger present fails =>
    have unread : Kind.readInt .i32 raw = none :=
      Option.eq_none_iff_forall_ne_some.2 fun n found =>
        fails n ((Kind.readInt_eq_some_iff signed present).1 found)
    rw [told_unconverted given (absurd · present) (by rw [reads, unread]; rfl)]
    rfl
  | tooLow writes low =>
    rw [converted writes, checks, if_pos low]
    rfl
  | tooHigh writes high =>
    rw [converted writes, checks, if_neg (by omega), if_pos high]
    rfl
  | good writes low high =>
    rw [converted writes, checks, if_neg (by omega), if_neg (by omega)]
    rfl

theorem told_strength (given : Decoder.standard.rawValue form strengthSpec = raw)
    {verdict : Except String Binary64} (judged : StrengthVerdict raw verdict) :
    told form strengthSpec = verdict.map .float := by
  have reads : strengthSpec.fieldType.convert raw .standard =
      (Kind.readFloat raw).map FormValue.float := rfl
  have converted {x : Binary64} (found : Kind.readFloat raw = some x) :
      told form strengthSpec = .ok (.float x) := by
    rw [told_converted given (fun _ => rfl) (by rw [reads, found]; rfl)]
    rfl
  cases judged with
  | missing empty => exact converted (if_pos empty)
  | noDouble present fails =>
    have unread : Kind.readFloat raw = none :=
      Option.eq_none_iff_forall_ne_some.2 fun x found => by
        obtain ⟨read, finite⟩ := (Kind.readFloat_eq_some_iff present).1 found
        exact absurd finite (by simp [fails x read])
    rw [told_unconverted given (fun _ => rfl) (by rw [reads, unread]; rfl)]
    rfl
  | good read finite =>
    have present : raw ≠ "" := by
      rintro rfl
      cases read
    exact converted ((Kind.readFloat_eq_some_iff present).2 ⟨read, finite⟩)

def fault? {α : Type} : Except String α → Option String
  | .error message => some message
  | .ok _ => none

def messages (variant : Except String String) (size : Except String IntWidth.i32.Value)
    (strength : Except String Binary64) : List String :=
  [fault? variant, fault? size, fault? strength].reduceOption

theorem fault?_map {α β : Type} (f : α → β) (verdict : Except String α) :
    fault? (verdict.map f) = fault? verdict := by
  cases verdict <;> rfl

theorem fault?_told (form : Query) (spec : FieldSpec) :
    fault? (told form spec) = match Decoder.standard.clean form spec with
      | .error e => some e.message
      | .ok _ => none := by
  rw [told]
  cases Decoder.standard.clean form spec <;> rfl

theorem messages_complaints (form : Query) (specs : List FieldSpec) :
    (Decoder.complaints (specs.map (Decoder.standard.clean form))).map (·.message) =
      (specs.map fun spec => fault? (told form spec)).reduceOption := by
  induction specs with
  | nil => rfl
  | cons spec specs ih =>
    rw [List.map_cons, List.map_cons, fault?_told]
    cases Decoder.standard.clean form spec with
    | ok value =>
      rw [List.reduceOption_cons_of_none, ← ih]
      rfl
    | error e =>
      rw [List.reduceOption_cons_of_some, ← ih]
      rfl

theorem on_transfer_blank (v : String) (n : IntWidth.i32.Value) {x : Binary64}
    (finite : x.isFinite = true) :
    (transfer [("size", .int n), ("strength", .float x), ("variant", .text v)]).on Flubber.blank =
      (.ok (), ⟨v, n, x⟩) := by
  have object : Fillable.toJson Flubber.blank =
    .object [("size", .ofInt IntWidth.i32.zero), ("strength", .ofFloat .zero),
      ("variant", .text "")] := rfl
  have overlaid : Members.overlay [("size", .ofInt IntWidth.i32.zero), ("strength", .ofFloat .zero),
      ("variant", .text "")]
      [("size", .int n), ("strength", .float x), ("variant", .text v)] =
    [("size", .ofInt n), ("strength", .ofFloat x), ("variant", .text v)] := rfl
  have size : Json.readMember [("size", .ofInt n), ("strength", .ofFloat x), ("variant", .text v)]
      "size" (Json.asInt .i32) = .ok n := Json.asInt_ofInt n
  have strength : Json.readMember [("size", .ofInt n), ("strength", .ofFloat x),
      ("variant", .text v)] "strength" Json.asFloat = .ok x := by
    rw [Json.ofFloat_of_isFinite finite]
    rfl
  have filled : Fillable.readLike Flubber.blank (.object [("size", .ofInt n),
      ("strength", .ofFloat x), ("variant", .text v)]) = .ok ⟨v, n, x⟩ := by
    simp only [Fillable.readLike, size, strength]
    rfl
  rw [on_transfer_of_object object, overlaid, filled]

theorem decodeFlubber_eq (form : Query) :
    decodeFlubber form =
      match Decoder.standard.cleanFields form [variantSpec, sizeSpec, strengthSpec] with
      | .ok values =>
        match (transfer values).on Flubber.blank with
        | (.ok (), f) => .ok f
        | (.error fault, _) => .error fault
      | .error errors => .error (.validation errors) := by
  rw [decodeFlubber, specs_eq]
  simp only [bind, Except.bind, Decoder.on_decode]
  cases Decoder.standard.cleanFields form [variantSpec, sizeSpec, strengthSpec] <;> rfl

theorem clean_of_told {spec : FieldSpec} {value : FormValue}
    (accepted : told form spec = .ok value) : Decoder.standard.clean form spec = .ok value := by
  rw [told] at accepted
  cases clean : Decoder.standard.clean form spec with
  | ok found => rw [clean] at accepted; cases accepted; rfl
  | error e => rw [clean] at accepted; cases accepted

theorem decodeFlubber_of_accepted {v : String} {n : IntWidth.i32.Value} {x : Binary64}
    (variant : told form variantSpec = .ok (.text v)) (size : told form sizeSpec = .ok (.int n))
    (strength : told form strengthSpec = .ok (.float x)) (finite : x.isFinite = true) :
    decodeFlubber form = .ok ⟨v, n, x⟩ := by
  have values : Decoder.standard.cleanFields form [variantSpec, sizeSpec, strengthSpec] =
      .ok [("size", .int n), ("strength", .float x), ("variant", .text v)] := by
    rw [Decoder.cleanFields_eq]
    simp only [List.map_cons, List.map_nil, Decoder.acceptedValues, List.filterMap_cons,
      List.filterMap_nil, clean_of_told variant, clean_of_told size, clean_of_told strength]
    rfl
  rw [decodeFlubber_eq, values]
  simp only [on_transfer_blank v n finite]

theorem decodeFlubber_of_faults {variant : Except String String}
    {size : Except String IntWidth.i32.Value} {strength : Except String Binary64}
    (first : told form variantSpec = variant.map .text)
    (second : told form sizeSpec = size.map .int)
    (third : told form strengthSpec = strength.map .float)
    (faults : messages variant size strength ≠ []) :
    ∃ errors, decodeFlubber form = .error (.validation errors) ∧
      errors.message = String.intercalate "\n" (messages variant size strength) := by
  have said := messages_complaints form [variantSpec, sizeSpec, strengthSpec]
  have same : ([variantSpec, sizeSpec, strengthSpec].map fun spec =>
      fault? (told form spec)).reduceOption = messages variant size strength := by
    simp only [List.map_cons, List.map_nil, first, second, third, fault?_map, messages]
  rw [same] at said
  generalize complaints : Decoder.complaints ([variantSpec, sizeSpec, strengthSpec].map
    (Decoder.standard.clean form)) = found at said
  have present : found ≠ [] := by
    rintro rfl
    exact faults said.symm
  refine ⟨⟨found⟩, ?_, congrArg (String.intercalate "\n") said⟩
  rw [decodeFlubber_eq, Decoder.cleanFields_eq, complaints, if_neg present]

end

theorem exists_verdict {α : Type} {f : α → FormValue} (injective : Function.Injective f)
    {said : Except String FormValue} {Judged : Except String α → Prop}
    (total : ∃ verdict, Judged verdict)
    (judged : ∀ verdict, Judged verdict → said = verdict.map f) :
    ∃ verdict, (∀ other, Judged other ↔ other = verdict) ∧ said = verdict.map f := by
  obtain ⟨verdict, right⟩ := total
  refine ⟨verdict, fun other => ⟨fun also => ?_, fun same => same ▸ right⟩, judged verdict right⟩
  have same : other.map f = verdict.map f := (judged other also).symm.trans (judged verdict right)
  cases other with
  | error e =>
    cases verdict with
    | error e' => exact congrArg Except.error (Except.error.inj same)
    | ok value => cases same
  | ok x =>
    cases verdict with
    | error e => cases same
    | ok y => exact congrArg Except.ok (injective (Except.ok.inj same))

theorem exists_variantVerdict (raw : String) : ∃ verdict, VariantVerdict raw verdict := by
  by_cases empty : raw = ""
  · exact ⟨_, .missing empty⟩
  · by_cases four : Text.glyphLength raw = 4
    · exact ⟨_, .good four⟩
    · exact ⟨_, .wrongLength empty four⟩

theorem exists_sizeVerdict (raw : String) : ∃ verdict, SizeVerdict raw verdict := by
  by_cases empty : raw = ""
  · exact ⟨_, .missing empty⟩
  · by_cases written : ∃ n : IntWidth.i32.Value, Integer.Writes raw.toList n.val
    · obtain ⟨n, writes⟩ := written
      by_cases low : n.val < 1
      · exact ⟨_, .tooLow writes low⟩
      · by_cases high : 4 < n.val
        · exact ⟨_, .tooHigh writes high⟩
        · exact ⟨_, .good writes (by omega) (by omega)⟩
    · exact ⟨_, .noInteger empty fun n writes => written ⟨n, writes⟩⟩

theorem exists_strengthVerdict (raw : String) : ∃ verdict, StrengthVerdict raw verdict := by
  by_cases empty : raw = ""
  · exact ⟨_, .missing empty⟩
  · by_cases read : ∃ x, Decimal.read raw.toList = some x ∧ x.isFinite = true
    · obtain ⟨x, reads, finite⟩ := read
      exact ⟨_, .good reads finite⟩
    · refine ⟨_, .noDouble empty fun x reads => ?_⟩
      exact Bool.eq_false_iff.2 fun finite => read ⟨x, reads, finite⟩

section

variable {body : String} {query : Option String}

theorem VariantVerdict.of_ok {raw v : String} (judged : VariantVerdict raw (.ok v)) :
    v = raw ∧ Text.glyphLength v = 4 := by
  cases judged with
  | good four => exact ⟨rfl, four⟩

theorem SizeVerdict.of_ok {raw : String} {n : IntWidth.i32.Value}
    (judged : SizeVerdict raw (.ok n)) :
    Integer.Writes raw.toList n.val ∧ 1 ≤ n.val ∧ n.val ≤ 4 := by
  cases judged with
  | good writes low high => exact ⟨writes, low, high⟩

theorem StrengthVerdict.of_ok {raw : String} {x : Binary64} (judged : StrengthVerdict raw (.ok x)) :
    raw = "" ∧ x = .zero ∨ Decimal.read raw.toList = some x ∧ x.isFinite = true := by
  cases judged with
  | missing empty => exact .inl ⟨empty, rfl⟩
  | good reads finite => exact .inr ⟨reads, finite⟩

theorem good_iff {f : Flubber} :
    Good body query f ↔ VariantVerdict (rawText body query "variant") (.ok f.variant) ∧
      SizeVerdict (rawText body query "size") (.ok f.size) ∧
      StrengthVerdict (rawText body query "strength") (.ok f.strength) := by
  constructor
  · intro good
    refine ⟨?_, .good good.size good.low good.high, ?_⟩
    · have four := good.four
      rw [good.variant] at four ⊢
      exact .good four
    · obtain ⟨empty, zero⟩ | ⟨reads, finite⟩ := good.strength
      · rw [zero]
        exact .missing empty
      · exact .good reads finite
  · rintro ⟨variant, size, strength⟩
    obtain ⟨same, four⟩ := variant.of_ok
    obtain ⟨writes, low, high⟩ := size.of_ok
    exact ⟨same, four, writes, low, high, strength.of_ok⟩

theorem answer_post {target : String}
    (posted : splitTarget target.toList = (['/'], query.map String.toList)) :
    answer "POST" target body = describe body query := by
  have text : (query.map String.toList).map String.ofList = query := by
    cases query <;> simp
  simp [answer, posted, text]

theorem StrengthVerdict.isFinite {raw : String} {x : Binary64}
    (judged : StrengthVerdict raw (.ok x)) : x.isFinite = true := by
  obtain ⟨_, rfl⟩ | ⟨_, finite⟩ := judged.of_ok
  · exact Binary64.isFinite_zero
  · exact finite

theorem decodeFlubber_of_good {f : Flubber} (good : Good body query f) :
    decodeFlubber (formValues body query) = .ok f := by
  obtain ⟨variant, size, strength⟩ := good_iff.1 good
  exact decodeFlubber_of_accepted
    (told_variant (rawValue_formValues body query variantSpec) variant)
    (told_size (rawValue_formValues body query sizeSpec) size)
    (told_strength (rawValue_formValues body query strengthSpec) strength)
    strength.isFinite

theorem messages_eq_nil_iff {variant : Except String String}
    {size : Except String IntWidth.i32.Value} {strength : Except String Binary64} :
    messages variant size strength = [] ↔
      ∃ f : Flubber, variant = .ok f.variant ∧ size = .ok f.size ∧ strength = .ok f.strength := by
  constructor
  · intro silent
    cases variant <;> cases size <;> cases strength <;> cases silent
    exact ⟨⟨_, _, _⟩, rfl, rfl, rfl⟩
  · rintro ⟨f, rfl, rfl, rfl⟩
    rfl

theorem answer_of_good {target : String} {f : Flubber}
    (posted : splitTarget target.toList = (['/'], query.map String.toList))
    (good : Good body query f) : answer "POST" target body = ⟨200, f.describe ++ "\n"⟩ := by
  rw [answer_post posted]
  unfold describe
  rw [decodeFlubber_of_good good]

theorem answer_of_faults {target : String} {variant : Except String String}
    {size : Except String IntWidth.i32.Value} {strength : Except String Binary64}
    (posted : splitTarget target.toList = (['/'], query.map String.toList))
    (first : told (formValues body query) variantSpec = variant.map .text)
    (second : told (formValues body query) sizeSpec = size.map .int)
    (third : told (formValues body query) strengthSpec = strength.map .float)
    (faults : messages variant size strength ≠ []) :
    answer "POST" target body =
      ⟨400, String.intercalate "\n" (messages variant size strength) ++ "\n"⟩ := by
  obtain ⟨errors, rejected, said⟩ := decodeFlubber_of_faults first second third faults
  rw [answer_post posted]
  unfold describe
  rw [rejected]
  simp only [said]

/-- A posted form is answered with the record that its good fields describe, or else with the
messages about the fields that are not good. Its body is one that the server takes in as a text,
neither too large nor anything but UTF-8. -/
theorem answer_posted {target : String}
    (posted : splitTarget target.toList = (['/'], query.map String.toList)) :
    ((answer "POST" target body).status = 200 ∨ (answer "POST" target body).status = 400) ∧
    ((answer "POST" target body).status = 200 ↔ ∃ f, Good body query f) ∧
    (∀ f, Good body query f → decodeFlubber (formValues body query) = .ok f ∧
      answer "POST" target body = ⟨200, f.describe ++ "\n"⟩) ∧
    ∃ variant size strength,
      (∀ other, VariantVerdict (rawText body query "variant") other ↔ other = variant) ∧
      (∀ other, SizeVerdict (rawText body query "size") other ↔ other = size) ∧
      (∀ other, StrengthVerdict (rawText body query "strength") other ↔ other = strength) ∧
      ((∀ f, ¬ Good body query f) → messages variant size strength ≠ [] ∧
        answer "POST" target body =
          ⟨400, String.intercalate "\n" (messages variant size strength) ++ "\n"⟩) := by
  obtain ⟨variant, judgedVariant, toldVariant⟩ := exists_verdict (f := .text)
    (fun _ _ => FormValue.text.inj) (exists_variantVerdict (rawText body query "variant"))
    fun _ => told_variant (rawValue_formValues body query variantSpec)
  obtain ⟨size, judgedSize, toldSize⟩ := exists_verdict (f := .int)
    (fun _ _ => FormValue.int.inj) (exists_sizeVerdict (rawText body query "size"))
    fun _ => told_size (rawValue_formValues body query sizeSpec)
  obtain ⟨strength, judgedStrength, toldStrength⟩ := exists_verdict (f := .float)
    (fun _ _ => FormValue.float.inj) (exists_strengthVerdict (rawText body query "strength"))
    fun _ => told_strength (rawValue_formValues body query strengthSpec)
  have refused (bad : ∀ f, ¬ Good body query f) : messages variant size strength ≠ [] ∧
      answer "POST" target body =
        ⟨400, String.intercalate "\n" (messages variant size strength) ++ "\n"⟩ := by
    have faults : messages variant size strength ≠ [] := by
      intro silent
      obtain ⟨f, sameVariant, sameSize, sameStrength⟩ := messages_eq_nil_iff.1 silent
      exact bad f (good_iff.2 ⟨(judgedVariant _).2 sameVariant.symm,
        (judgedSize _).2 sameSize.symm, (judgedStrength _).2 sameStrength.symm⟩)
    exact ⟨faults, answer_of_faults posted toldVariant toldSize toldStrength faults⟩
  have status : (∃ f, Good body query f) ∧ (answer "POST" target body).status = 200 ∨
      (∀ f, ¬ Good body query f) ∧ (answer "POST" target body).status = 400 := by
    by_cases fits : ∃ f, Good body query f
    · obtain ⟨f, good⟩ := fits
      exact .inl ⟨⟨f, good⟩, by rw [answer_of_good posted good]⟩
    · have bad (f : Flubber) (good : Good body query f) : False := fits ⟨f, good⟩
      exact .inr ⟨bad, by rw [(refused bad).2]⟩
  refine ⟨status.imp And.right And.right, ?_,
    fun f good => ⟨decodeFlubber_of_good good, answer_of_good posted good⟩,
    variant, size, strength, judgedVariant, judgedSize, judgedStrength, refused⟩
  rcases status with ⟨fits, ok⟩ | ⟨bad, failed⟩
  · exact iff_of_true ok fits
  · refine iff_of_false ?_ fun ⟨f, good⟩ => bad f good
    rw [failed]
    decide

/-- The size in the body comes before the one in the query, and each field that is not good has its
message. -/
theorem answer_posted_two_faults :
    splitTarget "/?size=9&strength=x".toList =
        (['/'], (some "size=9&strength=x").map String.toList) ∧
      answer "POST" "/?size=9&strength=x" "variant=foo&size=%2B2" =
        ⟨400, "The 4-letter variant has the wrong length\n" ++
          "Flubber strength could not be converted to float\n"⟩ := by
  have posted : splitTarget "/?size=9&strength=x".toList =
      (['/'], (some "size=9&strength=x").map String.toList) := by decide
  obtain ⟨-, -, -, variant, size, strength, judgedVariant, judgedSize, judgedStrength, refused⟩ :=
    @answer_posted "variant=foo&size=%2B2" (some "size=9&strength=x") "/?size=9&strength=x" posted
  have rawVariant : rawText "variant=foo&size=%2B2" (some "size=9&strength=x") "variant" = "foo" :=
    by decide +kernel
  have rawSize : rawText "variant=foo&size=%2B2" (some "size=9&strength=x") "size" = "+2" :=
    by decide +kernel
  have rawStrength : rawText "variant=foo&size=%2B2" (some "size=9&strength=x") "strength" = "x" :=
    by decide +kernel
  have digits : Decimal.Digits ['2'] := ⟨List.cons_ne_nil _ _, List.forall_mem_singleton.2 rfl⟩
  have two : Integer.Writes ['+', '2'] 2 := .plus digits
  have bad (f : Flubber) : ¬ Good "variant=foo&size=%2B2" (some "size=9&strength=x") f := by
    intro good
    have four := good.four
    rw [good.variant, rawVariant] at four
    exact absurd four (by decide +kernel)
  have wrongLength : .error "The 4-letter variant has the wrong length" = variant :=
    (judgedVariant _).1 (rawVariant ▸ .wrongLength (by decide) (by decide +kernel))
  have good : .ok ⟨2, by decide⟩ = size :=
    (judgedSize _).1 (rawSize ▸ .good two (by decide) (by decide))
  have noDouble : .error "Flubber strength could not be converted to float" = strength := by
    refine (judgedStrength _).1 (rawStrength ▸ .noDouble (by decide) fun x reads => ?_)
    have unread : Decimal.read "x".toList = none := by decide +kernel
    rw [unread] at reads
    cases reads
  refine ⟨posted, (refused bad).2.trans ?_⟩
  rw [← wrongLength, ← good, ← noDouble]
  decide +kernel

end

end FormIntake.Demo
