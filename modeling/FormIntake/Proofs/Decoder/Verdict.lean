import FormIntake.Decoder
import Mathlib.Data.List.Forall2

namespace FormIntake.Decoder

variable {σ : Type} [FormSource σ]

/-- The text that a source has under a key, which is empty if the key is absent. -/
inductive Held (source : σ) (key : String) : String → Prop
  | there {text : String} (found : FormSource.lookup? source key = some text) : Held source key text
  | absent (missing : FormSource.lookup? source key = none) : Held source key ""

/-- What a pass reads for a spec: what the source has under its key, without the white space around
it just where the settings say so. -/
inductive Raw (d : Decoder) (source : σ) (spec : FieldSpec) : String → Prop
  | trimmed {text : String} (held : Held source spec.key text)
      (trims : d.settings.trimWhitespace = true) : Raw d source spec (Text.trim text)
  | whole {text : String} (held : Held source spec.key text)
      (keeps : d.settings.trimWhitespace = false) : Raw d source spec text

/-- What becomes of a spec on its own: the first complaint there is, or its value. -/
inductive Verdict (d : Decoder) (source : σ) (spec : FieldSpec) :
    Except ValidationError FormValue → Prop
  | missing (reads : Raw d source spec "") (required : spec.required = true) :
      Verdict d source spec (.error
        { message := spec.name ++ " is required", code := "required", field := some spec.key })
  | unconverted {raw : String} (reads : Raw d source spec raw)
      (present : raw = "" → spec.required = false)
      (fails : spec.fieldType.convert raw d.settings = none) :
      Verdict d source spec (.error
        { message := spec.name ++ " could not be converted to " ++ spec.typeName
          code := "invalid"
          field := some spec.key })
  | rejected {raw : String} {value : FormValue} {validator : Validator} {e : ValidationError}
      (reads : Raw d source spec raw) (present : raw = "" → spec.required = false)
      (converts : spec.fieldType.convert raw d.settings = some value)
      (validates : spec.validator = some validator)
      (rejects : validator spec.toField value = .error e) :
      Verdict d source spec (.error { e with field := e.field.or (some spec.key) })
  | accepted {raw : String} {value : FormValue} (reads : Raw d source spec raw)
      (present : raw = "" → spec.required = false)
      (converts : spec.fieldType.convert raw d.settings = some value)
      (accepts : ∀ validator ∈ spec.validator, validator spec.toField value = .ok ()) :
      Verdict d source spec (.ok value)

theorem held_iff {source : σ} {key text : String} :
    Held source key text ↔ formValue source key = text := by
  unfold formValue
  constructor
  · intro held
    cases held with
    | there found => rw [found, Option.getD_some]
    | absent missing => rw [missing, Option.getD_none]
  · rintro rfl
    cases found : FormSource.lookup? source key with
    | none => exact .absent found
    | some text => exact .there found

theorem raw_iff {d : Decoder} {source : σ} {spec : FieldSpec} {raw : String} :
    Raw d source spec raw ↔ d.rawValue source spec = raw := by
  unfold rawValue
  constructor
  · intro reads
    cases reads with
    | trimmed held trims => rw [if_pos trims, held_iff.1 held]
    | whole held keeps => rw [if_neg (by simp [keeps]), held_iff.1 held]
  · rintro rfl
    have held : Held source spec.key (formValue source spec.key) := held_iff.2 rfl
    by_cases trims : d.settings.trimWhitespace = true
    · rw [if_pos trims]
      exact .trimmed held trims
    · rw [if_neg trims]
      exact .whole held (Bool.eq_false_iff.2 trims)

theorem complaint_required (f : Field) : f.complaint "is required" "required" =
    { message := f.name ++ " is required", code := "required", field := some f.key } := by
  simp [Field.complaint, String.append_assoc, show " " ++ "is required" = " is required" from rfl]

theorem complaint_unconverted (f : Field) :
    f.complaint ("could not be converted to " ++ f.typeName) "invalid" =
      { message := f.name ++ " could not be converted to " ++ f.typeName
        code := "invalid"
        field := some f.key } := by
  have joined (name : String) : " " ++ ("could not be converted to " ++ name) =
      " could not be converted to " ++ name := by rw [← String.append_assoc]; rfl
  simp [Field.complaint, String.append_assoc, joined]

theorem verdict_clean (d : Decoder) (source : σ) (spec : FieldSpec) :
    Verdict d source spec (d.clean source spec) := by
  have reads : Raw d source spec (d.rawValue source spec) := raw_iff.2 rfl
  unfold clean
  dsimp only
  split
  · next missing =>
    rw [complaint_required]
    exact .missing (missing.1 ▸ reads) missing.2
  · next here =>
    have present : d.rawValue source spec = "" → spec.required = false := by
      intro empty
      simpa using fun required => here ⟨empty, required⟩
    unfold FieldSpec.convert
    cases converts : spec.fieldType.convert (d.rawValue source spec) d.settings with
    | none =>
      rw [complaint_unconverted]
      exact .unconverted reads present converts
    | some value =>
      unfold FieldSpec.validate
      cases validates : spec.validator with
      | none => exact .accepted reads present converts (by rw [validates]; rintro _ ⟨⟩)
      | some validator =>
        cases checked : validator spec.toField value with
        | error e =>
          simp only [bind, Except.bind, checked, Except.mapError]
          exact .rejected reads present converts validates checked
        | ok =>
          simp only [bind, Except.bind, checked, Except.mapError]
          exact .accepted reads present converts (by rw [validates]; rintro _ ⟨⟩; exact checked)

theorem Verdict.unique {d : Decoder} {source : σ} {spec : FieldSpec}
    {left right : Except ValidationError FormValue} (first : Verdict d source spec left)
    (second : Verdict d source spec right) : left = right := by
  cases first <;> cases second <;> simp_all [raw_iff]

theorem verdict_iff {d : Decoder} {source : σ} {spec : FieldSpec}
    {verdict : Except ValidationError FormValue} :
    Verdict d source spec verdict ↔ d.clean source spec = verdict := by
  constructor
  · intro given
    exact (verdict_clean d source spec).unique given
  · rintro rfl
    exact verdict_clean d source spec

theorem Verdict.field_of_error {d : Decoder} {source : σ} {spec : FieldSpec} {e : ValidationError}
    (verdict : Verdict d source spec (.error e)) :
    ∃ field, e.field = some field ∧ (field = spec.key ∨ ∃ raw value validator,
      Raw d source spec raw ∧ spec.fieldType.convert raw d.settings = some value ∧
      spec.validator = some validator ∧ validator spec.toField value = .error e) := by
  cases verdict with
  | missing | unconverted => exact ⟨spec.key, rfl, .inl rfl⟩
  | @rejected raw value validator named reads present converts validates rejects =>
    cases names : named.field with
    | none => exact ⟨spec.key, rfl, .inl rfl⟩
    | some field =>
      have same : ({ named with field := some field } : ValidationError) = named := by rw [← names]
      refine ⟨field, rfl, .inr ⟨raw, value, validator, reads, converts, validates, ?_⟩⟩
      rw [Option.some_or, same]
      exact rejects

def complaints (verdicts : List (Except ValidationError FormValue)) : List ValidationError :=
  verdicts.filterMap fun
    | .error e => some e
    | .ok _ => none

def acceptedValues (d : Decoder) (source : σ) (specs : List FieldSpec) :
    List (String × FormValue) :=
  specs.filterMap fun spec => (d.clean source spec).toOption.map (spec.key, ·)

theorem foldl_add (d : Decoder) (source : σ) (specs : List FieldSpec) (pass : Pass) :
    specs.foldl (fun pass spec => Pass.add pass spec (d.clean source spec)) pass =
      ⟨⟨pass.errors.toList ++ complaints (specs.map (d.clean source))⟩,
        (acceptedValues d source specs).foldl
          (fun values (key, value) => values.insert key value) pass.values⟩ := by
  induction specs generalizing pass with
  | nil => simp [complaints, acceptedValues]
  | cons spec rest ih =>
    rw [List.foldl_cons, ih]
    cases clean : d.clean source spec with
    | error e =>
      simp [Pass.add, ValidationErrors.push, complaints, acceptedValues, clean, Except.toOption]
    | ok value => simp [Pass.add, complaints, acceptedValues, clean, Except.toOption]

theorem cleanFields_eq (d : Decoder) (source : σ) (specs : List FieldSpec) :
    d.cleanFields source specs =
      if complaints (specs.map (d.clean source)) = [] then
        .ok (Entries.ofList (acceptedValues d source specs))
      else .error ⟨complaints (specs.map (d.clean source))⟩ := by
  unfold cleanFields
  rw [foldl_add]
  cases complaints (specs.map (d.clean source)) with
  | nil => rfl
  | cons e rest => rfl

theorem mem_complaints {verdicts : List (Except ValidationError FormValue)} {e : ValidationError} :
    e ∈ complaints verdicts ↔ .error e ∈ verdicts := by
  constructor
  · intro member
    obtain ⟨verdict, given, found⟩ := List.mem_filterMap.1 member
    cases verdict with
    | ok value => cases found
    | error e => cases found; exact given
  · intro given
    exact List.mem_filterMap.2 ⟨.error e, given, rfl⟩

theorem exists_clean_ok {d : Decoder} {source : σ} {specs : List FieldSpec}
    (faultless : complaints (specs.map (d.clean source)) = []) {spec : FieldSpec}
    (member : spec ∈ specs) :
    ∃ value, d.clean source spec = .ok value := by
  cases clean : d.clean source spec with
  | ok value => exact ⟨value, rfl⟩
  | error e =>
    have given : e ∈ complaints (specs.map (d.clean source)) :=
      mem_complaints.2 (clean ▸ List.mem_map_of_mem member)
    rw [faultless] at given
    cases given

theorem keys_acceptedValues {d : Decoder} {source : σ} {specs : List FieldSpec}
    (faultless : complaints (specs.map (d.clean source)) = []) :
    (acceptedValues d source specs).map Prod.fst = specs.map (·.key) := by
  induction specs with
  | nil => rfl
  | cons spec rest ih =>
    obtain ⟨value, clean⟩ := exists_clean_ok faultless (List.mem_cons_self (a := spec))
    have later : complaints (rest.map (d.clean source)) = [] := by
      simpa [complaints, clean] using faultless
    simpa [acceptedValues, clean, Except.toOption] using ih later

section

variable {d : Decoder} {source : σ} {specs : List FieldSpec} {values : Cleaned}

theorem of_cleanFields (found : d.cleanFields source specs = .ok values) :
    complaints (specs.map (d.clean source)) = [] ∧
      values = Entries.ofList (acceptedValues d source specs) := by
  rw [cleanFields_eq] at found
  split at found
  · next faultless => cases found; exact ⟨faultless, rfl⟩
  · cases found

theorem ordered_of_cleanFields (found : d.cleanFields source specs = .ok values) :
    values.Ordered := by
  rw [(of_cleanFields found).2]
  exact Entries.ordered_ofList _

theorem mem_keys_of_cleanFields (found : d.cleanFields source specs = .ok values) {key : String} :
    key ∈ values.keys ↔ key ∈ specs.map (·.key) := by
  obtain ⟨faultless, rfl⟩ := of_cleanFields found
  rw [Entries.mem_keys_ofList, keys_acceptedValues faultless]

theorem get?_of_cleanFields {before after : List FieldSpec} {spec : FieldSpec}
    (found : d.cleanFields source (before ++ spec :: after) = .ok values)
    (last : spec.key ∉ after.map (·.key)) :
    ∃ value, d.clean source spec = .ok value ∧ values.get? spec.key = some value := by
  obtain ⟨faultless, rfl⟩ := of_cleanFields found
  obtain ⟨value, clean⟩ :=
    exists_clean_ok faultless (List.mem_append_right before List.mem_cons_self)
  have later : complaints (after.map (d.clean source)) = [] := by
    simp only [complaints, List.map_append, List.filterMap_append, List.append_eq_nil_iff,
      List.map_cons, List.filterMap_cons, clean] at faultless
    exact faultless.2
  have absent : spec.key ∉ (acceptedValues d source after).map Prod.fst := by
    rwa [keys_acceptedValues later]
  have split : acceptedValues d source (before ++ spec :: after) =
      acceptedValues d source before ++ (spec.key, value) :: acceptedValues d source after := by
    simp [acceptedValues, clean, Except.toOption]
  refine ⟨value, clean, ?_⟩
  rw [split]
  exact Entries.get?_foldl_insert_of_last id _ value absent []

end

/-- A pass gives all complaints about its specs in their order, or else the value of the last spec
of each key. -/
theorem cleanFields_verdicts (d : Decoder) (source : σ) (specs : List FieldSpec) :
    ∃ verdicts, (∀ others, List.Forall₂ (Verdict d source) specs others ↔ others = verdicts) ∧
      (complaints verdicts ≠ [] → d.cleanFields source specs = .error ⟨complaints verdicts⟩) ∧
      (complaints verdicts = [] → ∃ values, d.cleanFields source specs = .ok values ∧
        values.Ordered ∧ (∀ key, key ∈ values.keys ↔ key ∈ specs.map (·.key)) ∧
        ∀ before spec after, specs = before ++ spec :: after → spec.key ∉ after.map (·.key) →
          ∃ value, Verdict d source spec (.ok value) ∧ values.get? spec.key = some value) ∧
      (∀ e ∈ complaints verdicts, ∃ spec ∈ specs, Verdict d source spec (.error e) ∧
        ∃ field, e.field = some field ∧ (field = spec.key ∨ ∃ raw value validator,
          Raw d source spec raw ∧ spec.fieldType.convert raw d.settings = some value ∧
          spec.validator = some validator ∧ validator spec.toField value = .error e)) := by
  refine ⟨specs.map (d.clean source), ?_, ?_, ?_, ?_⟩
  · intro others
    induction specs generalizing others with
    | nil => simp
    | cons spec rest ih =>
      cases others with
      | nil => simp
      | cons verdict others =>
        rw [List.forall₂_cons, ih, verdict_iff, List.map_cons, List.cons.injEq, eq_comm]
  · intro failed
    rw [cleanFields_eq, if_neg failed]
  · intro faultless
    have found : d.cleanFields source specs =
        .ok (Entries.ofList (acceptedValues d source specs)) := by
      rw [cleanFields_eq, if_pos faultless]
    refine ⟨_, found, ordered_of_cleanFields found, fun key => mem_keys_of_cleanFields found, ?_⟩
    rintro before spec after rfl last
    obtain ⟨value, clean, here⟩ := get?_of_cleanFields found last
    exact ⟨value, verdict_iff.2 clean, here⟩
  · intro e member
    obtain ⟨spec, given, clean⟩ := List.mem_map.1 (mem_complaints.1 member)
    have verdict := verdict_iff.2 clean
    exact ⟨spec, given, verdict, verdict.field_of_error⟩

def plainSpec (key : String) (kind : Kind) : FieldSpec where
  key
  typeName := kind.name
  required := true
  limitExpr := ""
  name := key
  limit := none
  validator := none
  fieldType := .builtin kind

/-- The standard decoder, but for the white space around raw values, which stays. -/
def untrimming : Decoder := ⟨{ Settings.standard with trimWhitespace := false }, rfl⟩

def spacedNumber : Entries String := [("n", " 7 ")]

/-- One key for a number and for a text. With white space around it the text is no number, and then
its complaint comes before that about a key that is absent. -/
theorem cleanFields_verdicts_repeated_key :
    (∃ values, standard.cleanFields spacedNumber [plainSpec "n" .int, plainSpec "n" .string] =
      .ok values ∧ values.get? "n" = some (.text "7")) ∧
    untrimming.cleanFields spacedNumber
        [plainSpec "n" .int, plainSpec "m" .string, plainSpec "n" .string] =
      .error ⟨[⟨"n could not be converted to int", "invalid", some "n", []⟩,
        ⟨"m is required", "required", some "m", []⟩]⟩ := by
  constructor
  · obtain ⟨verdicts, only, _, passes, _⟩ := cleanFields_verdicts standard spacedNumber
      [plainSpec "n" .int, plainSpec "n" .string]
    have reads (kind : Kind) : Raw standard spacedNumber (plainSpec "n" kind) "7" := by
      have trimmed : Text.trim " 7 " = "7" := by decide
      exact trimmed ▸ .trimmed (.there rfl) rfl
    have number : Verdict standard spacedNumber (plainSpec "n" .int)
        (.ok (.int ⟨7, by decide⟩)) := .accepted (reads .int) (by decide) rfl (by simp [plainSpec])
    have text : Verdict standard spacedNumber (plainSpec "n" .string) (.ok (.text "7")) :=
      .accepted (reads .string) (by decide) rfl (by simp [plainSpec])
    obtain rfl := (only _).1 (.cons number (.cons text .nil))
    obtain ⟨values, found, _, _, last⟩ := passes rfl
    obtain ⟨value, judged, here⟩ := last [plainSpec "n" .int] (plainSpec "n" .string) [] rfl
      List.not_mem_nil
    cases judged.unique text
    exact ⟨values, found, here⟩
  · obtain ⟨verdicts, only, fails, _⟩ := cleanFields_verdicts untrimming spacedNumber
      [plainSpec "n" .int, plainSpec "m" .string, plainSpec "n" .string]
    have reads (kind : Kind) : Raw untrimming spacedNumber (plainSpec "n" kind) " 7 " :=
      .whole (.there rfl) rfl
    have number : Verdict untrimming spacedNumber (plainSpec "n" .int)
        (.error ⟨"n could not be converted to int", "invalid", some "n", []⟩) :=
      .unconverted (reads .int) (by decide) rfl
    have missing : Verdict untrimming spacedNumber (plainSpec "m" .string)
        (.error ⟨"m is required", "required", some "m", []⟩) :=
      .missing (.whole (.absent rfl) rfl) rfl
    have text : Verdict untrimming spacedNumber (plainSpec "n" .string) (.ok (.text " 7 ")) :=
      .accepted (reads .string) (by decide) rfl (by simp [plainSpec])
    obtain rfl := (only _).1 (.cons number (.cons missing (.cons text .nil)))
    exact fails (by simp [complaints])

end FormIntake.Decoder
