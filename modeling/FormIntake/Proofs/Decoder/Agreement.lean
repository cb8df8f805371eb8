import FormIntake.Proofs.Decoder.Verdict
import FormIntake.Proofs.Field.Conversion
import FormIntake.Proofs.Record.Filling

namespace FormIntake

theorem Member.eq_of_read {a b : Member} {json : Json} (types : a.type = b.type)
    (left : a.type.read json = .ok a.value) (right : b.type.read json = .ok b.value) : a = b := by
  obtain ⟨type, value⟩ := a
  obtain ⟨type', value'⟩ := b
  cases types
  rw [left] at right
  cases right
  rfl

namespace Decoder

variable {σ : Type} [FormSource σ]

/-- Under the key of each spec, which has a built-in type, the record has a member that goes with
it. -/
def Agrees (specs : List FieldSpec) (r : Record) : Prop :=
  ∀ spec ∈ specs, ∃ kind m, spec.fieldType = .builtin kind ∧ r.get? spec.key = some m ∧
    m.type = kind.memberType

theorem convert_of_clean {d : Decoder} {source : σ} {spec : FieldSpec} {value : FormValue}
    (clean : d.clean source spec = .ok value) :
    spec.fieldType.convert (d.rawValue source spec) d.settings = some value := by
  cases verdict_iff.2 clean with
  | accepted reads present converts accepts => rwa [raw_iff.1 reads]

section

variable {d : Decoder} {source : σ} {specs : List FieldSpec} {values : Cleaned} {r : Record}

theorem converted_of_cleanFields (distinct : (specs.map (·.key)).Nodup)
    (found : d.cleanFields source specs = .ok values) {spec : FieldSpec} (member : spec ∈ specs) :
    ∃ value, spec.fieldType.convert (d.rawValue source spec) d.settings = some value ∧
      values.get? spec.key = some value := by
  obtain ⟨before, after, rfl⟩ := List.append_of_mem member
  rw [List.map_append, List.map_cons] at distinct
  have last : spec.key ∉ after.map (·.key) :=
    (List.nodup_cons.1 (List.nodup_append.1 distinct).2.1).1
  obtain ⟨value, clean, here⟩ := get?_of_cleanFields found last
  exact ⟨value, convert_of_clean clean, here⟩

theorem keys_inside (agrees : Agrees specs r) (found : d.cleanFields source specs = .ok values) :
    ∀ key ∈ values.keys, key ∈ r.keys := by
  intro key inValues
  obtain ⟨spec, member, rfl⟩ := List.mem_map.1 ((mem_keys_of_cleanFields found).1 inValues)
  obtain ⟨_, _, _, here, _⟩ := agrees spec member
  exact Entries.mem_keys_of_get? here

theorem asMember_of_agrees (agrees : Agrees specs r) {spec : FieldSpec} (member : spec ∈ specs)
    {m : Member} (here : r.get? spec.key = some m) {value : FormValue}
    (converts : spec.fieldType.convert (d.rawValue source spec) d.settings = some value) :
    value.asMember.type = m.type ∧ value.asMember.Lasts := by
  obtain ⟨kind, m', builtin, here', sameType⟩ := agrees spec member
  rw [here] at here'
  cases here'
  rw [builtin] at converts
  rw [sameType]
  exact Kind.asMember_of_convert converts

theorem keptLast_of_agrees (agrees : Agrees specs r)
    (others : ∀ entry ∈ r, entry.1 ∉ specs.map (·.key) → entry.2.Initial)
    (found : d.cleanFields source specs = .ok values) : r.KeptLast values := by
  intro name m here unwritten
  refine (others _ (Entries.mem_of_get? here) fun own => ?_).lasts
  have cleaned := (mem_keys_of_cleanFields found).2 own
  obtain ⟨value, given⟩ := Entries.exists_get?_of_mem_keys cleaned
  exact unwritten value ((wins_iff_get? (keys_inside agrees found)).2 given)

theorem asMember_of_wins (agrees : Agrees specs r) (distinct : (specs.map (·.key)).Nodup)
    (found : d.cleanFields source specs = .ok values) {name : String} {m : Member}
    (here : r.get? name = some m) {value : FormValue} (wins : Wins r.keys values name value) :
    value.asMember.type = m.type ∧ value.asMember.Lasts := by
  have given := (wins_iff_get? (keys_inside agrees found)).1 wins
  obtain ⟨spec, member, rfl⟩ :=
    List.mem_map.1 ((mem_keys_of_cleanFields found).1 (Entries.mem_keys_of_get? given))
  obtain ⟨value', converts, given'⟩ := converted_of_cleanFields distinct found member
  rw [given] at given'
  cases given'
  exact asMember_of_agrees agrees member here converts

theorem converted_of_filledBy {filled : Record} (agrees : Agrees specs r)
    (distinct : (specs.map (·.key)).Nodup) (found : d.cleanFields source specs = .ok values)
    (filledBy : r.FilledBy values filled) {spec : FieldSpec} (member : spec ∈ specs) :
    ∃ value, spec.fieldType.convert (d.rawValue source spec) d.settings = some value ∧
      filled.get? spec.key = some value.asMember := by
  obtain ⟨value, converts, given⟩ := converted_of_cleanFields distinct found member
  obtain ⟨_, m, _, here, _⟩ := agrees spec member
  have wins := (wins_iff_get? (keys_inside agrees found)).2 given
  obtain ⟨n, there, sameType, reads⟩ := filledBy.written spec.key m here value wins
  obtain ⟨types, lasts⟩ := asMember_of_wins agrees distinct found here wins
  have same : n = value.asMember :=
    Member.eq_of_read (sameType.trans types.symm) reads (FormValue.read_toJson lasts)
  exact ⟨value, converts, same ▸ there⟩

theorem get?_of_filledBy {filled : Record} (agrees : Agrees specs r)
    (found : d.cleanFields source specs = .ok values) (filledBy : r.FilledBy values filled)
    {name : String} (outside : name ∉ specs.map (·.key)) : filled.get? name = r.get? name := by
  cases here : r.get? name with
  | none =>
    rw [Entries.get?_eq_none_iff] at here ⊢
    rwa [Record.keys_of_shape filledBy.sameShape]
  | some m =>
    refine filledBy.kept name m here fun value wins => outside ?_
    have given := (wins_iff_get? (keys_inside agrees found)).1 wins
    exact (mem_keys_of_cleanFields found).1 (Entries.mem_keys_of_get? given)

end

/-- A decoding into a record that agrees with the specs can only fail with complaints. -/
theorem decode_of_agrees (d : Decoder) (source : σ) (specs : List FieldSpec) (r : Record)
    (ordered : r.Ordered) (distinct : (specs.map (·.key)).Nodup) (agrees : Agrees specs r)
    (others : ∀ entry ∈ r, entry.1 ∉ specs.map (·.key) → entry.2.Initial) :
    (∃ errors, (d.decode source specs).on (Target.record r) =
      (.error (.validation errors), .record r)) ∨
    ∃ filled : Record, (d.decode source specs).on (Target.record r) = (.ok (), .record filled) ∧
      filled.shape = r.shape ∧
      (∀ spec ∈ specs, ∃ value,
        spec.fieldType.convert (d.rawValue source spec) d.settings = some value ∧
        filled.get? spec.key = some value.asMember) ∧
      ∀ name, name ∉ specs.map (·.key) → filled.get? name = r.get? name := by
  rw [on_decode]
  cases found : d.cleanFields source specs with
  | error errors => exact .inl ⟨errors, rfl⟩
  | ok values =>
    have sorted := ordered_of_cleanFields found
    have kept := keptLast_of_agrees agrees others found
    have readable : ∀ name m, r.get? name = some m → ∀ value, Wins r.keys values name value →
        ∃ new, m.type.read value.toJson = .ok new := by
      intro name m here value wins
      obtain ⟨sameType, lasts⟩ := asMember_of_wins agrees distinct found here wins
      rw [← sameType]
      exact ⟨_, FormValue.read_toJson lasts⟩
    obtain ⟨filled, done, filledBy⟩ := Record.exists_filledBy ordered sorted kept readable
    refine .inr ⟨filled, done, filledBy.sameShape, ?_, ?_⟩
    · intro spec member
      exact converted_of_filledBy agrees distinct found filledBy member
    · intro name outside
      exact get?_of_filledBy agrees found filledBy outside

/-- The sign of a zero survives. -/
theorem decode_negative_zero :
    ∃ filled : Record,
      (standard.decode ([("x", "-0.0")] : Entries String) [plainSpec "x" .float]).on
        (Target.record [("x", .default (.plain .float))]) = (.ok (), .record filled) ∧
      filled.get? "x" = some ⟨.plain .float, .ofMagnitude true 0⟩ := by
  have agrees : Agrees [plainSpec "x" .float] [("x", .default (.plain .float))] := by
    intro spec member
    cases List.mem_singleton.1 member
    exact ⟨.float, _, rfl, rfl, rfl⟩
  have others : ∀ entry ∈ [("x", Member.default (.plain .float))],
      entry.1 ∉ [plainSpec "x" .float].map (·.key) → entry.2.Initial := by
    intro entry member outside
    cases List.mem_singleton.1 member
    exact .inl rfl
  rcases decode_of_agrees standard ([("x", "-0.0")] : Entries String) [plainSpec "x" .float]
    [("x", .default (.plain .float))] (by decide) (by decide) agrees others with
    ⟨errors, failed⟩ | ⟨filled, done, _, converted, _⟩
  · have cleaned : standard.cleanFields ([("x", "-0.0")] : Entries String)
        [plainSpec "x" .float] = .ok [("x", .float (.ofMagnitude true 0))] := rfl
    rw [on_decode, cleaned] at failed
    dsimp only at failed
    rw [Target.on_transfer_record] at failed
    split at failed <;> cases failed
  · obtain ⟨value, converts, here⟩ := converted _ List.mem_cons_self
    have negative : value = .float (.ofMagnitude true 0) :=
      Option.some.inj (converts.symm.trans rfl)
    rw [negative] at here
    exact ⟨filled, done, here⟩

end Decoder

end FormIntake
