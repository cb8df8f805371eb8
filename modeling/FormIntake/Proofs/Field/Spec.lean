import FormIntake.Field.Spec
import FormIntake.Proofs.Field.Limit
import FormIntake.Proofs.Text.Blank

namespace FormIntake

namespace Registry

/-- `r` has come of putting types under names; `history` has them all, the last one at its end. -/
inductive History : Registry → List (String × FieldType) → Prop
  | builtin : History builtin (Kind.all.map fun k => (k.name, .builtin k))
  | empty : History empty []
  | insert {r : Registry} {history : List (String × FieldType)} (known : History r history)
      (name : String) (t : FieldType) : History (r.insert name t) (history ++ [(name, t)])
  | register {r : Registry} {history : List (String × FieldType)} (known : History r history)
      (name : String) (convert : String → Option FormValue) (validator : Option Validator) :
      History (r.register name convert validator) (history ++ [(name, .custom convert validator)])

/-- `t` came under `name`, and nothing after it. -/
def LastUnder (history : List (String × FieldType)) (name : String) (t : FieldType) : Prop :=
  ∃ before after, history = before ++ (name, t) :: after ∧ name ∉ after.map Prod.fst

theorem exists_lastUnder {history : List (String × FieldType)} {name : String}
    (came : name ∈ history.map Prod.fst) : ∃ t, LastUnder history name t := by
  induction history with
  | nil => cases came
  | cons head rest ih =>
    obtain ⟨other, t⟩ := head
    by_cases later : name ∈ rest.map Prod.fst
    · obtain ⟨t', before, after, rfl, last⟩ := ih later
      exact ⟨t', (other, t) :: before, after, rfl, last⟩
    · have here : name = other := (List.mem_cons.1 came).resolve_right later
      subst here
      exact ⟨t, [], rest, rfl, later⟩

section

variable {r : Registry} {history : List (String × FieldType)} {name : String} {t : FieldType}

theorem History.types_eq (known : History r history) : r.types = Entries.ofList history := by
  induction known with
  | builtin | empty => rfl
  | insert known name t ih | register known name convert validator ih =>
    simp only [Registry.insert, Registry.register, ih, Entries.ofList, List.foldl_append]
    rfl

theorem History.lookup_of_last (known : History r history) (last : LastUnder history name t) :
    r.lookup name = some t := by
  obtain ⟨before, after, rfl, absent⟩ := last
  rw [lookup, known.types_eq]
  exact Entries.get?_foldl_insert_of_last id before t absent []

theorem History.lookup_eq_none_iff (known : History r history) :
    r.lookup name = none ↔ name ∉ history.map Prod.fst := by
  rw [lookup, known.types_eq, Entries.get?_eq_none_iff, Entries.mem_keys_ofList]

theorem History.lookup_eq_some_iff (known : History r history) :
    r.lookup name = some t ↔ LastUnder history name t := by
  refine ⟨fun found => ?_, known.lookup_of_last⟩
  have came : name ∈ history.map Prod.fst := by
    by_contra absent
    rw [known.lookup_eq_none_iff.2 absent] at found
    cases found
  obtain ⟨last, isLast⟩ := exists_lastUnder came
  rw [known.lookup_of_last isLast] at found
  exact Option.some.inj found ▸ isLast

end

end Registry

theorem Limit.isLimit_of_parse {typeName expr : String} {e : FormError}
    (fails : parse typeName expr = .error e) :
    (∃ fault, e = .invalidLimit expr fault) ∨ e = .limitMismatch expr typeName := by
  obtain ⟨result, means⟩ := exists_means typeName expr
  rw [parse_of_means means] at fails
  subst fails
  cases means <;> simp

theorem shownName_spec {key : String} (keyed : key ≠ "") (trimmed : Text.trim key = key)
    (name : Option String) :
    shownName key name ≠ "" ∧ Text.trim (shownName key name) = shownName key name := by
  unfold shownName
  cases name with
  | none => exact ⟨keyed, trimmed⟩
  | some name =>
    dsimp only [Option.map_some]
    split
    · exact ⟨keyed, trimmed⟩
    · next filled => exact ⟨filled, Text.trim_trim name⟩

namespace SpecDraft

section

variable {d : SpecDraft} {r : Registry} {t : FieldType} {spec : FieldSpec}

theorem build_of_blank (blank : Text.Blank d.key) : d.build r = .error .emptyKey := by
  rw [build]
  exact if_pos (Text.trim_eq_empty_iff.2 blank)

theorem build_of_unknown (keyed : ¬ Text.Blank d.key) (unknown : r.lookup d.typeName = none) :
    d.build r = .error (.unknownType d.typeName) := by
  rw [← Text.trim_eq_empty_iff] at keyed
  simp only [build, keyed, ↓reduceIte, unknown]

def specOf (d : SpecDraft) (t : FieldType) (limit : Option Limit) : FieldSpec where
  key := Text.trim d.key
  typeName := d.typeName
  required := d.required
  limitExpr := d.limit
  name := shownName (Text.trim d.key) d.name
  limit
  validator := d.validator.or t.validator
  fieldType := t

theorem build_of_known (keyed : ¬ Text.Blank d.key) (known : r.lookup d.typeName = some t) :
    d.build r = (readLimit t d.typeName d.limit).map (specOf d t) := by
  rw [← Text.trim_eq_empty_iff] at keyed
  simp only [build, keyed, ↓reduceIte, known]
  cases readLimit t d.typeName d.limit <;> rfl

theorem readLimit_eq_error_iff {typeName expr : String} {e : FormError} :
    readLimit t typeName expr = .error e ↔
      t.isCustom = false ∧ Limit.parse typeName expr = .error e := by
  unfold readLimit
  cases t.isCustom <;> simp

theorem build_eq_error_iff (keyed : ¬ Text.Blank d.key) (known : r.lookup d.typeName = some t)
    {e : FormError} :
    d.build r = .error e ↔ t.isCustom = false ∧ Limit.parse d.typeName d.limit = .error e := by
  rw [build_of_known keyed known, ← readLimit_eq_error_iff]
  cases readLimit t d.typeName d.limit <;> simp [Except.map]

theorem build_eq_emptyKey_iff : d.build r = .error .emptyKey ↔ Text.Blank d.key := by
  refine ⟨fun fails => ?_, build_of_blank⟩
  by_contra keyed
  cases known : r.lookup d.typeName with
  | none =>
    rw [build_of_unknown keyed known] at fails
    cases fails
  | some t =>
    have parse := ((build_eq_error_iff keyed known).1 fails).2
    rcases Limit.isLimit_of_parse parse with ⟨_, other⟩ | other <;> cases other

theorem build_eq_unknownType_iff (keyed : ¬ Text.Blank d.key) :
    d.build r = .error (.unknownType d.typeName) ↔ r.lookup d.typeName = none := by
  refine ⟨fun fails => ?_, build_of_unknown keyed⟩
  by_contra registered
  obtain ⟨t, known⟩ := Option.ne_none_iff_exists'.1 registered
  have parse := ((build_eq_error_iff keyed known).1 fails).2
  rcases Limit.isLimit_of_parse parse with ⟨_, other⟩ | other <;> cases other

theorem of_build (found : d.build r = .ok spec) :
    ¬ Text.Blank d.key ∧ ∃ t limit, r.lookup d.typeName = some t ∧
      readLimit t d.typeName d.limit = .ok limit ∧ spec = specOf d t limit := by
  by_cases blank : Text.Blank d.key
  · rw [build_of_blank blank] at found
    cases found
  · refine ⟨blank, ?_⟩
    cases known : r.lookup d.typeName with
    | none =>
      rw [build_of_unknown blank known] at found
      cases found
    | some t =>
      rw [build_of_known blank known] at found
      obtain ⟨limit, read, rfl⟩ := Integer.eq_of_map_ok found
      exact ⟨t, limit, rfl, read, rfl⟩

end

/-- Copying what has been built is building the draft with the other key and name. -/
theorem copy_of_build {d : SpecDraft} {r : Registry} {spec : FieldSpec}
    (found : d.build r = .ok spec) (key : String) (name : Option String) :
    spec.copy key name = build { d with key, name } r := by
  obtain ⟨_, t, limit, known, read, rfl⟩ := of_build found
  by_cases blank : Text.Blank key
  · rw [build_of_blank blank, FieldSpec.copy]
    exact if_pos (Text.trim_eq_empty_iff.2 blank)
  · have rebuilt : build { d with key, name } r = .ok (specOf { d with key, name } t limit) := by
      rw [build_of_known (d := { d with key, name }) blank known]
      exact congrArg (Except.map _) read
    rw [rebuilt, FieldSpec.copy]
    exact if_neg (Text.trim_eq_empty_iff.not.2 blank)

end SpecDraft

namespace FieldSpec

/-- `spec` has been built of `d`, and copied any number of times. -/
inductive Made (r : Registry) (d : SpecDraft) : FieldSpec → Prop
  | built {spec : FieldSpec} (found : d.build r = .ok spec) : Made r d spec
  | copied {spec copy : FieldSpec} {key : String} {name : Option String} (made : Made r d spec)
      (found : spec.copy key name = .ok copy) : Made r d copy

structure Sound (history : List (String × FieldType)) (d : SpecDraft) (spec : FieldSpec) :
    Prop where
  keyed : spec.key ≠ ""
  keyTrimmed : Text.trim spec.key = spec.key
  named : spec.name ≠ ""
  nameTrimmed : Text.trim spec.name = spec.name
  required : spec.required = d.required
  typeName : spec.typeName = d.typeName
  limitExpr : spec.limitExpr = d.limit
  fieldType : Registry.LastUnder history spec.typeName spec.fieldType
  unlimited : spec.fieldType.isCustom = true → spec.limit = none
  limited : spec.fieldType.isCustom = false →
    Limit.parse spec.typeName spec.limitExpr = .ok spec.limit
  validator : spec.validator = d.validator.or spec.fieldType.validator

variable {r : Registry} {d : SpecDraft} {spec : FieldSpec}

theorem Made.build (made : Made r d spec) :
    ∃ key name, SpecDraft.build { d with key, name } r = .ok spec := by
  induction made with
  | built found => exact ⟨d.key, d.name, found⟩
  | @copied _ _ key name _ found ih =>
    obtain ⟨_, _, before⟩ := ih
    rw [SpecDraft.copy_of_build before] at found
    exact ⟨key, name, found⟩

theorem sound_of_build {history : List (String × FieldType)} (known : r.History history)
    (found : d.build r = .ok spec) : Sound history d spec := by
  obtain ⟨blank, t, limit, looked, read, rfl⟩ := SpecDraft.of_build found
  have keyed : Text.trim d.key ≠ "" := Text.trim_eq_empty_iff.not.2 blank
  obtain ⟨named, nameTrimmed⟩ := shownName_spec keyed (Text.trim_trim d.key) d.name
  refine ⟨keyed, Text.trim_trim d.key, named, nameTrimmed, rfl, rfl, rfl,
    known.lookup_eq_some_iff.1 looked, ?_, ?_, rfl⟩
  · intro custom
    have unread : SpecDraft.readLimit t d.typeName d.limit = .ok none := if_pos custom
    exact (Except.ok.inj (read.symm.trans unread))
  · intro limits
    have notCustom : ¬ t.isCustom = true := Bool.eq_false_iff.1 limits
    have parsed : SpecDraft.readLimit t d.typeName d.limit = Limit.parse d.typeName d.limit :=
      if_neg notCustom
    exact parsed.symm.trans read

theorem Made.sound {history : List (String × FieldType)} (known : r.History history)
    (made : Made r d spec) : Sound history d spec := by
  obtain ⟨key, name, found⟩ := made.build
  obtain ⟨keyed, keyTrimmed, named, nameTrimmed, required, typeName, limitExpr, fieldType,
    unlimited, limited, validator⟩ := sound_of_build known found
  exact ⟨keyed, keyTrimmed, named, nameTrimmed, required, typeName, limitExpr, fieldType,
    unlimited, limited, validator⟩

theorem Made.copy_eq (made : Made r d spec) (key : String) (name : Option String) :
    spec.copy key name = SpecDraft.build { d with key, name } r := by
  obtain ⟨_, _, found⟩ := made.build
  exact SpecDraft.copy_of_build found key name

theorem exists_copy_iff (spec : FieldSpec) (key : String) (name : Option String) :
    (∃ copy, spec.copy key name = .ok copy) ↔ ¬ Text.Blank key := by
  rw [← Text.trim_eq_empty_iff]
  by_cases empty : Text.trim key = ""
  · have fails : spec.copy key name = .error .emptyKey := if_pos empty
    simp [fails, empty]
  · exact iff_of_true ⟨_, if_neg empty⟩ empty

/-- A spec of a built-in type under its own name and with its own validator. -/
inductive OfKind (k : Kind) : FieldSpec → Prop
  | intro {r : Registry} {history : List (String × FieldType)} {d : SpecDraft} {spec : FieldSpec}
      (known : r.History history) (made : Made r d spec) (type : spec.fieldType = .builtin k)
      (named : spec.typeName = k.name) (unvalidated : d.validator = none) : OfKind k spec

section

variable {k : Kind}

theorem OfKind.fieldType (kind : OfKind k spec) : spec.fieldType = .builtin k := by
  obtain ⟨_, _, type, _, _⟩ := kind
  exact type

theorem OfKind.typeName (kind : OfKind k spec) : spec.typeName = k.name := by
  obtain ⟨_, _, _, named, _⟩ := kind
  exact named

theorem OfKind.limited (kind : OfKind k spec) :
    Limit.parse k.name spec.limitExpr = .ok spec.limit := by
  obtain ⟨known, made, type, named, _⟩ := kind
  have parsed := (made.sound known).limited (by rw [type]; rfl)
  rw [named] at parsed
  exact parsed

theorem OfKind.validator (kind : OfKind k spec) : spec.validator = k.validator := by
  obtain ⟨known, made, type, _, unvalidated⟩ := kind
  rw [(made.sound known).validator, unvalidated, type]
  rfl

end

end FieldSpec

/-- A draft fails for the first of these: its key is blank, its type never came into the registry,
its limit is none. All that is made of it is sound, and a copy is what would have been built. -/
theorem SpecDraft.build_and_copy {r : Registry} {history : List (String × FieldType)}
    (known : r.History history) (d : SpecDraft) :
    (d.build r = .error .emptyKey ↔ Text.Blank d.key) ∧
    (¬ Text.Blank d.key →
      (d.build r = .error (.unknownType d.typeName) ↔ d.typeName ∉ history.map Prod.fst) ∧
      ∀ t, Registry.LastUnder history d.typeName t →
        ∀ e, d.build r = .error e ↔
          t.isCustom = false ∧ Limit.parse d.typeName d.limit = .error e) ∧
    ∀ spec, FieldSpec.Made r d spec → FieldSpec.Sound history d spec ∧
      ∀ key name, spec.copy key name = build { d with key, name } r ∧
        ((∃ copy, spec.copy key name = .ok copy) ↔ ¬ Text.Blank key) := by
  refine ⟨build_eq_emptyKey_iff, fun keyed => ⟨?_, fun t last e => ?_⟩, fun spec made => ?_⟩
  · rw [build_eq_unknownType_iff keyed, known.lookup_eq_none_iff]
  · exact build_eq_error_iff keyed (known.lookup_of_last last)
  · exact ⟨made.sound known, fun key name =>
      ⟨made.copy_eq key name, FieldSpec.exists_copy_iff spec key name⟩⟩

/-- A custom type in place of a built-in one takes any limit expression; names that are blank or
have white space around them are put right in copies as they are in what is built. -/
theorem SpecDraft.copy_with_replaced_type :
    ∃ spec copy,
      build { requiring " a " "string" with limit := ",,", name := some " " }
        (Registry.builtin.insert "string" (.custom (fun _ => none) none)) = .ok spec ∧
      spec.name = "a" ∧ spec.limit = none ∧ spec.copy " b " (some " B ") = .ok copy ∧
      copy.key = "b" ∧ copy.name = "B" ∧
      build { requiring " b " "string" with limit := ",,", name := some " B " }
        (Registry.builtin.insert "string" (.custom (fun _ => none) none)) = .ok copy := by
  have known := Registry.History.builtin.insert "string" (.custom (fun _ => none) none)
  obtain ⟨_, _, made⟩ := build_and_copy known
    { requiring " a " "string" with limit := ",,", name := some " " }
  obtain ⟨sound, copies⟩ := made _ (.built rfl)
  obtain ⟨same, _⟩ := copies " b " (some " B ")
  exact ⟨_, _, rfl, rfl, sound.unlimited rfl, rfl, rfl, rfl, same.symm⟩

end FormIntake
