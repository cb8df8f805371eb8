import FormIntake.Proofs.Decoder.Verdict
import FormIntake.Proofs.Query.Values
import FormIntake.Proofs.Text.Blank

namespace FormIntake

inductive Source
  | hashed (values : Std.HashMap String String)
  | sorted (values : Entries String) (ordered : values.Ordered)
  | submitted (query : Query)
  | reference (source : Source)

namespace Source

def lookup? : Source → String → Option String
  | hashed values, key => FormSource.lookup? values key
  | sorted values _, key => FormSource.lookup? values key
  | submitted query, key => FormSource.lookup? query key
  | reference source, key => source.lookup? key

instance : FormSource Source := ⟨lookup?⟩

/-- The keys of a source, each with the first of its values, in the order of the source. -/
def firstValues : Source → List (String × String)
  | hashed values => values.toList
  | sorted values _ => values
  | submitted query => query.entries.mapValues (·.first)
  | reference source => source.firstValues

end Source

namespace Decoder

variable {σ σ' : Type} [FormSource σ] [FormSource σ']

def SameValues (d : Decoder) (specs : List FieldSpec) (left : σ) (right : σ') : Prop :=
  ∀ spec ∈ specs, if d.settings.trimWhitespace then
    Text.trim (formValue left spec.key) = Text.trim (formValue right spec.key)
  else formValue left spec.key = formValue right spec.key

/-- Two sources that no pass and no target tells apart. -/
structure Alike (d : Decoder) (specs : List FieldSpec) (left : σ) (right : σ') : Prop where
  cleaned : d.cleanFields left specs = d.cleanFields right specs
  decoded : ∀ {τ : Type} [Fillable τ] (target : τ),
    (d.decode left specs).on target = (d.decode right specs).on target

section

variable {d : Decoder} {specs : List FieldSpec} {left : σ} {right : σ'}

theorem rawValue_eq_of_sameValues (same : d.SameValues specs left right) {spec : FieldSpec}
    (member : spec ∈ specs) : d.rawValue left spec = d.rawValue right spec := by
  have here := same spec member
  unfold rawValue
  split at here
  · next trims => rw [if_pos trims, if_pos trims, here]
  · next keeps => rw [if_neg keeps, if_neg keeps, here]

theorem clean_eq_of_rawValue {spec : FieldSpec}
    (same : d.rawValue left spec = d.rawValue right spec) :
    d.clean left spec = d.clean right spec := by
  unfold clean
  rw [same]

theorem cleanFields_eq_of_clean
    (same : ∀ spec ∈ specs, d.clean left spec = d.clean right spec) :
    d.cleanFields left specs = d.cleanFields right specs := by
  have verdicts : specs.map (d.clean left) = specs.map (d.clean right) :=
    List.map_congr_left same
  have accepted : acceptedValues d left specs = acceptedValues d right specs := by
    apply List.filterMap_congr
    intro spec member
    rw [same spec member]
  rw [cleanFields_eq, cleanFields_eq, verdicts, accepted]

theorem Alike.of_cleaned (cleaned : d.cleanFields left specs = d.cleanFields right specs) :
    d.Alike specs left right := by
  refine ⟨cleaned, fun target => ?_⟩
  rw [on_decode, on_decode, cleaned]

theorem alike_of_sameValues (same : d.SameValues specs left right) : d.Alike specs left right := by
  apply Alike.of_cleaned
  apply cleanFields_eq_of_clean
  intro spec member
  exact clean_eq_of_rawValue (rawValue_eq_of_sameValues same member)

theorem sameValues_of_formValue
    (same : ∀ spec ∈ specs, formValue left spec.key = formValue right spec.key) :
    d.SameValues specs left right := by
  intro spec member
  rw [same spec member]
  split <;> rfl

end

end Decoder

namespace Source

/-- Something is left of the first value for a key: `text`. -/
def Shows (source : Source) (key text : String) : Prop :=
  text ≠ "" ∧ ∃ value, (key, value) ∈ source.firstValues ∧ Text.trim value = text

theorem mem_mapValues_first {entries : Entries Submitted} {key value : String} :
    (key, value) ∈ entries.mapValues (·.first) ↔ ∃ s, (key, s) ∈ entries ∧ s.first = value := by
  simp [Entries.mapValues]

theorem lookup?_eq_some_iff {source : Source} {key value : String} :
    source.lookup? key = some value ↔ (key, value) ∈ source.firstValues := by
  induction source with
  | hashed values => exact Std.HashMap.mem_toList_iff_getElem?_eq_some.symm
  | sorted values ordered =>
    exact ⟨Entries.mem_of_get?, Entries.get?_of_mem ordered⟩
  | submitted query =>
    show query.get? key = some value ↔ _
    rw [firstValues, mem_mapValues_first, Query.get?, Option.map_eq_some_iff]
    refine exists_congr fun s => and_congr_left fun _ => ?_
    exact ⟨Entries.mem_of_get?, Entries.get?_of_mem query.ordered⟩
  | reference source ih => exact ih

theorem formValue_eq (source : Source) (key : String) :
    formValue source key = (source.lookup? key).getD "" := rfl

theorem formValue_eq_iff {source : Source} {key value : String} :
    formValue source key = value ↔ (key, value) ∈ source.firstValues ∨
      value = "" ∧ ∀ other, (key, other) ∉ source.firstValues := by
  simp only [← lookup?_eq_some_iff, formValue_eq]
  cases source.lookup? key with
  | none => simp [eq_comm]
  | some found => simp

theorem formValue_ofList (pairs : List (String × String)) (key : String) :
    formValue (submitted (Query.ofList pairs)) key = (pairs.lookup key).getD "" := by
  show ((Query.ofList pairs).get? key).getD "" = _
  rw [Query.get?_eq_head?, Query.values_ofList, Query.head?_valuesOf]

theorem formValue_eq_of_firstValues {left right : Source} {key : String}
    (same : ∀ value, (key, value) ∈ left.firstValues ↔ (key, value) ∈ right.firstValues) :
    formValue left key = formValue right key := by
  have found : left.lookup? key = right.lookup? key := by
    apply Option.ext
    intro value
    rw [lookup?_eq_some_iff, lookup?_eq_some_iff, same]
  rw [formValue_eq, formValue_eq, found]

theorem shows_iff {source : Source} {key text : String} :
    source.Shows key text ↔ text ≠ "" ∧ Text.trim (formValue source key) = text := by
  refine and_congr_right fun filled => ?_
  simp only [← lookup?_eq_some_iff, formValue_eq]
  cases found : source.lookup? key with
  | some value => simp
  | none =>
    have nothing : Text.trim "" = "" := rfl
    simp [nothing, Ne.symm filled]

theorem trim_formValue_eq_of_shows {left right : Source} {key : String}
    (same : ∀ text, left.Shows key text ↔ right.Shows key text) :
    Text.trim (formValue left key) = Text.trim (formValue right key) := by
  have toRight := same (Text.trim (formValue left key))
  have toLeft := same (Text.trim (formValue right key))
  rw [shows_iff, shows_iff] at toRight toLeft
  by_cases nothing : Text.trim (formValue left key) = ""
  · by_cases other : Text.trim (formValue right key) = ""
    · rw [nothing, other]
    · exact (toLeft.2 ⟨other, rfl⟩).2
  · exact (toRight.1 ⟨nothing, rfl⟩).2.symm

theorem formValue_append {q : Query} {key value other : String}
    (later : key = other → q.contains other = true) :
    formValue (submitted (q.append key value)) other = formValue (submitted q) other := by
  have first : (q.append key value).get? other = q.get? other := by
    rw [Query.get?_eq_head?, Query.get?_eq_head?, Query.values_append]
    by_cases here : key = other
    · have filled : q.values other ≠ [] := Query.values_ne_nil_iff.2 (later here)
      rw [List.head?_append_of_ne_nil _ filled]
    · rw [if_neg here, List.append_nil]
  show ((q.append key value).get? other).getD "" = (q.get? other).getD ""
  rw [first]

end Source

/-- A pass tells two sources apart only by what they have, trimmed where the settings say so, as the
first value for the key of a spec. The kind and the order of a source, other keys and later values
are not seen, and neither is the difference between no value and a blank one. -/
theorem Decoder.alike_of_first_values (d : Decoder) (specs : List FieldSpec) :
    (∀ (source : Source) (key value : String), formValue source key = value ↔
      (key, value) ∈ source.firstValues ∨
        value = "" ∧ ∀ other, (key, other) ∉ source.firstValues) ∧
    (∀ (pairs : List (String × String)) (key : String),
      formValue (Source.submitted (Query.ofList pairs)) key = (pairs.lookup key).getD "") ∧
    (∀ {σ σ' : Type} [FormSource σ] [FormSource σ'] (left : σ) (right : σ'),
      d.SameValues specs left right → d.Alike specs left right) ∧
    (∀ left right : Source, (∀ spec ∈ specs, ∀ value,
        (spec.key, value) ∈ left.firstValues ↔ (spec.key, value) ∈ right.firstValues) →
      d.Alike specs left right) ∧
    (d.settings.trimWhitespace = true → ∀ left right : Source,
      (∀ spec ∈ specs, ∀ text, left.Shows spec.key text ↔ right.Shows spec.key text) →
      d.Alike specs left right) ∧
    ∀ (q : Query) (key value : String), (key ∈ specs.map (·.key) → q.contains key = true) →
      d.Alike specs (Source.submitted (q.append key value)) (Source.submitted q) := by
  refine ⟨fun _ _ _ => Source.formValue_eq_iff, Source.formValue_ofList,
    fun _ _ => alike_of_sameValues, ?_, ?_, ?_⟩
  · intro left right same
    apply alike_of_sameValues
    apply sameValues_of_formValue
    intro spec member
    exact Source.formValue_eq_of_firstValues (same spec member)
  · intro trims left right same
    apply alike_of_sameValues
    intro spec member
    rw [if_pos trims]
    exact Source.trim_formValue_eq_of_shows (same spec member)
  · intro q key value later
    apply alike_of_sameValues
    apply sameValues_of_formValue
    intro spec member
    apply Source.formValue_append
    rintro rfl
    exact later (List.mem_map_of_mem member)

theorem Decoder.alike_hashed_submitted :
    standard.Alike [plainSpec "name" .string, plainSpec "age" .string]
      ((∅ : Std.HashMap String String).insert "name" " Ada ")
      (Query.parse "name=Ada&age=+&name=Eve") := by
  have name : (Query.parse "name=Ada&age=+&name=Eve").get? "name" = some "Ada" := by decide +kernel
  have age : (Query.parse "name=Ada&age=+&name=Eve").get? "age" = some " " := by decide +kernel
  apply (alike_of_first_values standard _).2.2.1
  have trims : standard.settings.trimWhitespace = true := rfl
  have trimmed : Text.trim " Ada " = Text.trim "Ada" := by decide +kernel
  have blank : Text.trim "" = Text.trim " " := by decide +kernel
  simp [SameValues, trims, formValue, FormSource.lookup?, plainSpec, name, age, trimmed, blank]

end FormIntake
