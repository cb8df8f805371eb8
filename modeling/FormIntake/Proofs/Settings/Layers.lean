import FormIntake.Proofs.Settings.Loading

namespace FormIntake.Settings

def Switches (text : String) (b : Bool) : Prop :=
  b = true ↔ Text.lowerCase (Text.trim text) ∈ ["true", "1", "yes"]

/-- The value of a member is the one that `env` writes, or else one that it has without `env`. -/
inductive Prefers {α : Type} (env : Environment) (name : String) (writes : String → α → Prop)
    (otherwise : α → Prop) : α → Prop
  | given {text : String} {value : α} (found : env.get? name = some text)
      (written : writes text value) : Prefers env name writes otherwise value
  | absent {value : α} (missing : env.get? name = none) (kept : otherwise value) :
      Prefers env name writes otherwise value

/-- The standard settings, below the members of an object, below the environment. -/
structure Layered (overrides : Entries Json) (env : Environment) (s : Settings) : Prop where
  dateLayouts : Takes overrides "date_formats" .ofTexts standard.dateLayouts s.dateLayouts
  dateTimeLayouts :
    Takes overrides "date_time_formats" .ofTexts standard.dateTimeLayouts s.dateTimeLayouts
  debug : Prefers env "FORMSPEC_DEBUG" Switches (Takes overrides "debug" .bool standard.debug)
    s.debug
  logLevel : Prefers env "FORMSPEC_LOG_LEVEL" Eq
    (Takes overrides "log_level" .text standard.logLevel) s.logLevel
  timeZone : Prefers env "FORMSPEC_TIME_ZONE" Eq
    (Takes overrides "time_zone" .text standard.timeZone) s.timeZone
  trimWhitespace : Prefers env "FORMSPEC_TRIM_WHITESPACE" Switches
    (Takes overrides "trim_whitespace" .bool standard.trimWhitespace) s.trimWhitespace

def OfType {α : Type} (overrides : Entries Json) (name : String) (write : α → Json) : Prop :=
  ∀ json, overrides.get? name = some json → ∃ value, json = write value

structure Typed (overrides : Entries Json) : Prop where
  dateLayouts : OfType overrides "date_formats" Json.ofTexts
  dateTimeLayouts : OfType overrides "date_time_formats" Json.ofTexts
  debug : OfType overrides "debug" Json.bool
  logLevel : OfType overrides "log_level" Json.text
  timeZone : OfType overrides "time_zone" Json.text
  trimWhitespace : OfType overrides "trim_whitespace" Json.bool

/-- The octets are a TOML document with the data of an object. -/
inductive TomlFile (octets : List UInt8) (overrides : Entries Json) : Prop
  | intro {text : List Char} {t : Toml} (decodes : Text.Utf8.decode? octets = some text)
      (reads : Toml.read text = some t) (same : t.SameData (.object overrides)) :
      TomlFile octets overrides

/-- The members that the environment goes before, each with the name that it has there. -/
def environmentNames : List (String × String) :=
  [("debug", "FORMSPEC_DEBUG"), ("log_level", "FORMSPEC_LOG_LEVEL"),
    ("time_zone", "FORMSPEC_TIME_ZONE"), ("trim_whitespace", "FORMSPEC_TRIM_WHITESPACE")]

def Shadowed (env : Environment) (member : String) : Prop :=
  ∃ name, (member, name) ∈ environmentNames ∧ env.get? name ≠ none

def ZoneValid (overrides : Entries Json) : Prop :=
  ∀ zone, overrides.get? "time_zone" = some (.text zone) → UtcOffset.ofZone? zone ≠ none

/-- No invalid time zone is replaced by the environment. -/
def ZoneStands (overrides : Entries Json) (env : Environment) : Prop :=
  env.get? "FORMSPEC_TIME_ZONE" = none ∨ ZoneValid overrides

section

variable {α : Type} {overrides others : Entries Json} {name : String} {write : α → Json}
  {usual value : α}

theorem exists_takes (typed : OfType overrides name write) (usual : α) :
    ∃ value, Takes overrides name write usual value := by
  cases found : overrides.get? name with
  | none => exact ⟨usual, .absent found⟩
  | some json =>
    obtain ⟨value, rfl⟩ := typed json found
    exact ⟨value, .given found⟩

theorem Takes.unique (injective : Function.Injective write) {other : α}
    (first : Takes overrides name write usual value)
    (second : Takes overrides name write usual other) : value = other := by
  cases first with
  | given found =>
    cases second with
    | given found' => exact injective (Option.some.inj (found.symm.trans found'))
    | absent missing => rw [missing] at found; cases found
  | absent missing =>
    cases second with
    | given found' => rw [missing] at found'; cases found'
    | absent => rfl

theorem takes_iff {base : α} (injective : Function.Injective write)
    (takes : Takes overrides name write usual base) (value : α) :
    Takes overrides name write usual value ↔ value = base :=
  ⟨fun also => also.unique injective takes, fun same => same ▸ takes⟩

theorem Takes.congr (same : overrides.get? name = others.get? name)
    (takes : Takes overrides name write usual value) : Takes others name write usual value := by
  cases takes with
  | given found => exact .given (same ▸ found)
  | absent missing => exact .absent (same ▸ missing)

theorem prefers_iff (env : Environment) (name : String) {writes : String → α → Prop}
    {otherwise : α → Prop} {f : String → α} {base : α} (value : α)
    (written : ∀ text value, writes text value ↔ value = f text)
    (kept : ∀ value, otherwise value ↔ value = base) :
    Prefers env name writes otherwise value ↔ value = ((env.get? name).map f).getD base := by
  constructor
  · intro prefers
    cases prefers with
    | given found holds => rw [found, (written _ _).1 holds]; rfl
    | absent missing holds => rw [missing, (kept _).1 holds]; rfl
  · rintro rfl
    cases found : env.get? name with
    | some text => exact .given found ((written _ _).2 rfl)
    | none => exact .absent found ((kept _).2 rfl)

theorem Prefers.imp {env : Environment} {writes : String → α → Prop}
    {otherwise instead : α → Prop}
    (kept : env.get? name = none → otherwise value → instead value)
    (prefers : Prefers env name writes otherwise value) :
    Prefers env name writes instead value := by
  cases prefers with
  | given found written => exact .given found written
  | absent missing holds => exact .absent missing (kept missing holds)

end

theorem switches_iff (text : String) (b : Bool) : Switches text b ↔ b = isOn text := by
  have meaning : isOn text = true ↔ Text.lowerCase (Text.trim text) ∈ ["true", "1", "yes"] := by
    simp [isOn, or_assoc]
  rw [Switches, ← meaning]
  exact Bool.eq_iff_iff.symm

theorem text_injective : Function.Injective Json.text := fun _ _ => Json.text.inj

theorem bool_injective : Function.Injective Json.bool := fun _ _ => Json.bool.inj

theorem ofTexts_injective : Function.Injective Json.ofTexts := fun _ _ same =>
  List.map_injective_iff.2 text_injective (Json.array.inj same)

section

variable {overrides others : Entries Json} {env : Environment} {base other s : Settings}

theorem exists_overridden (typed : Typed overrides) : ∃ base, Overridden overrides base := by
  obtain ⟨dateLayouts, first⟩ := exists_takes typed.dateLayouts standard.dateLayouts
  obtain ⟨dateTimeLayouts, second⟩ := exists_takes typed.dateTimeLayouts standard.dateTimeLayouts
  obtain ⟨debug, third⟩ := exists_takes typed.debug standard.debug
  obtain ⟨logLevel, fourth⟩ := exists_takes typed.logLevel standard.logLevel
  obtain ⟨timeZone, fifth⟩ := exists_takes typed.timeZone standard.timeZone
  obtain ⟨trimWhitespace, sixth⟩ := exists_takes typed.trimWhitespace standard.trimWhitespace
  exact ⟨⟨trimWhitespace, timeZone, dateLayouts, dateTimeLayouts, logLevel, debug⟩,
    ⟨first, second, third, fourth, fifth, sixth⟩⟩

theorem layered_iff (overridden : Overridden overrides base) :
    Layered overrides env s ↔ s = base.withEnvironment env := by
  have written (text value : String) : text = value ↔ value = id text := eq_comm
  have debug := prefers_iff env "FORMSPEC_DEBUG" s.debug switches_iff
    (takes_iff bool_injective overridden.debug)
  have logLevel := prefers_iff env "FORMSPEC_LOG_LEVEL" s.logLevel written
    (takes_iff text_injective overridden.logLevel)
  have timeZone := prefers_iff env "FORMSPEC_TIME_ZONE" s.timeZone written
    (takes_iff text_injective overridden.timeZone)
  have trimWhitespace := prefers_iff env "FORMSPEC_TRIM_WHITESPACE" s.trimWhitespace switches_iff
    (takes_iff bool_injective overridden.trimWhitespace)
  have dateLayouts := takes_iff ofTexts_injective overridden.dateLayouts s.dateLayouts
  have dateTimeLayouts := takes_iff ofTexts_injective overridden.dateTimeLayouts s.dateTimeLayouts
  rw [Option.map_id_apply] at logLevel timeZone
  obtain ⟨_, _, _, _, _, _⟩ := s
  rw [withEnvironment, Settings.mk.injEq]
  constructor
  · rintro ⟨first, second, third, fourth, fifth, sixth⟩
    exact ⟨trimWhitespace.1 sixth, timeZone.1 fifth, dateLayouts.1 first, dateTimeLayouts.1 second,
      logLevel.1 fourth, debug.1 third⟩
  · rintro ⟨sixth, fifth, first, second, fourth, third⟩
    exact ⟨dateLayouts.2 first, dateTimeLayouts.2 second, debug.2 third, logLevel.2 fourth,
      timeZone.2 fifth, trimWhitespace.2 sixth⟩

theorem not_shadowed {member name : String} (missing : env.get? name = none)
    (only : ∀ other, (member, other) ∈ environmentNames → other = name) :
    ¬ Shadowed env member := by
  rintro ⟨other, listed, given⟩
  exact given (only other listed ▸ missing)

theorem get?_of_invalid_zone (overridden : Overridden overrides base)
    (invalid : UtcOffset.ofZone? base.timeZone = none) :
    overrides.get? "time_zone" = some (.text base.timeZone) := by
  have takes := overridden.timeZone
  generalize base.timeZone = zone at takes invalid
  cases takes with
  | given found => exact found
  | absent missing => exact absurd invalid (check_eq_ok_iff.1 check_standard).1

theorem zoneValid_iff (overridden : Overridden overrides base) :
    ZoneValid overrides ↔ UtcOffset.ofZone? base.timeZone ≠ none := by
  constructor
  · intro valid invalid
    exact valid _ (get?_of_invalid_zone overridden invalid) invalid
  · intro valid zone found
    exact overridden.timeZone.unique text_injective (.given found) ▸ valid

theorem Layered.congr
    (same : ∀ name ∈ memberNames, ¬ Shadowed env name → overrides.get? name = others.get? name)
    (layered : Layered overrides env s) : Layered others env s where
  dateLayouts := layered.dateLayouts.congr
    (same _ (by decide) (by simp [Shadowed, environmentNames]))
  dateTimeLayouts := layered.dateTimeLayouts.congr
    (same _ (by decide) (by simp [Shadowed, environmentNames]))
  debug := layered.debug.imp fun missing takes =>
    takes.congr (same _ (by decide) (not_shadowed missing (by simp [environmentNames])))
  logLevel := layered.logLevel.imp fun missing takes =>
    takes.congr (same _ (by decide) (not_shadowed missing (by simp [environmentNames])))
  timeZone := layered.timeZone.imp fun missing takes =>
    takes.congr (same _ (by decide) (not_shadowed missing (by simp [environmentNames])))
  trimWhitespace := layered.trimWhitespace.imp fun missing takes =>
    takes.congr (same _ (by decide) (not_shadowed missing (by simp [environmentNames])))

theorem check_congr (zones : base.timeZone = other.timeZone ∨
      UtcOffset.ofZone? base.timeZone ≠ none ∧ UtcOffset.ofZone? other.timeZone ≠ none)
    (dates : base.dateLayouts = other.dateLayouts)
    (dateTimes : base.dateTimeLayouts = other.dateTimeLayouts) : base.check = other.check := by
  rcases zones with same | ⟨valid, valid'⟩
  · simp only [check, offset, same, dates, dateTimes]
  · obtain ⟨first, found⟩ := Option.ne_none_iff_exists'.1 valid
    obtain ⟨second, found'⟩ := Option.ne_none_iff_exists'.1 valid'
    simp only [check, offset, found, found', dates, dateTimes, bind, Except.bind]

/-- The environment has no layouts, and so only replaces the time zone that is checked. -/
theorem check_of_check_withEnvironment
    (zone : env.get? "FORMSPEC_TIME_ZONE" = none ∨ UtcOffset.ofZone? base.timeZone ≠ none)
    (passed : (base.withEnvironment env).check = .ok ()) : base.check = .ok () := by
  obtain ⟨valid, dates, dateTimes⟩ := check_eq_ok_iff.1 passed
  refine check_eq_ok_iff.2 ⟨?_, dates, dateTimes⟩
  rcases zone with missing | own
  · simpa [withEnvironment, missing] using valid
  · exact own

section

variable {octets : List UInt8}

theorem ordered_of_sameData {t : Toml} (same : t.SameData (.object overrides)) :
    overrides.Ordered := by
  generalize object : Json.object overrides = json at same
  cases same with
  | table plain names values =>
    cases object
    exact Entries.ordered_ofList _
  | @marked value _ _ stands =>
    subst object
    unfold Toml.markedDateTime? at stands
    split at stands
    · obtain ⟨_, _, text⟩ := Option.map_eq_some_iff.1 stands
      cases text
    · cases stands
  | text | integer | float | notFinite | boolean | dateTime | array => cases object

theorem ofFile_of_overridden (file : TomlFile octets overrides)
    (overridden : Overridden overrides base) : ofFile .toml (some octets) = base.checked := by
  obtain ⟨decodes, reads, same⟩ := file
  have ordered := ordered_of_sameData same
  simp only [ofFile, decodes]
  rw [ofText_toml reads same, ofOverrides_object,
    (ofMembers_overrides_eq_ok_iff ordered).2 overridden]

theorem ofFileAndEnvironment_eq (file : TomlFile octets overrides)
    (overridden : Overridden overrides base) :
    ofFileAndEnvironment .toml (some octets) env =
      match base.check with
      | .ok () => (base.withEnvironment env).checked
      | .error fault => .error (.configuration fault) := by
  rw [ofFileAndEnvironment, ofFile_of_overridden file overridden]
  unfold checked
  cases base.check with
  | ok => simp only [bind, Except.bind]
  | error fault => simp only [bind, Except.bind]

theorem ofFileAndEnvironment_eq_ok_iff (file : TomlFile octets overrides)
    (overridden : Overridden overrides base) (stands : ZoneStands overrides env) {s : Settings} :
    ofFileAndEnvironment .toml (some octets) env = .ok s ↔
      s = base.withEnvironment env ∧ (base.withEnvironment env).check = .ok () := by
  rw [ofFileAndEnvironment_eq file overridden]
  constructor
  · intro loads
    split at loads
    · obtain ⟨rfl, passed⟩ := checked_eq_ok_iff.1 loads
      exact ⟨rfl, passed⟩
    · cases loads
  · rintro ⟨rfl, passed⟩
    have zone := stands.imp_right (zoneValid_iff overridden).1
    rw [check_of_check_withEnvironment zone passed]
    exact checked_eq_ok_iff.2 ⟨rfl, passed⟩

theorem ofFileAndEnvironment_of_invalid_zone (file : TomlFile octets overrides)
    (overridden : Overridden overrides base) (invalid : ¬ ZoneValid overrides) :
    UtcOffset.ofZone? base.timeZone = none ∧ ofFileAndEnvironment .toml (some octets) env =
      .error (.configuration (.invalidTimeZone base.timeZone)) := by
  rw [zoneValid_iff overridden, not_not] at invalid
  rw [ofFileAndEnvironment_eq file overridden, check_of_invalid_zone invalid]
  exact ⟨invalid, rfl⟩

theorem ofFileAndEnvironment_congr {octets' : List UInt8} (file : TomlFile octets overrides)
    (file' : TomlFile octets' others) (overridden : Overridden overrides base)
    (overridden' : Overridden others other) (stands : ZoneStands overrides env)
    (stands' : ZoneStands others env)
    (same : ∀ name ∈ memberNames, ¬ Shadowed env name → overrides.get? name = others.get? name) :
    ofFileAndEnvironment .toml (some octets') env =
      ofFileAndEnvironment .toml (some octets) env := by
  have layers : base.withEnvironment env = other.withEnvironment env :=
    (layered_iff overridden').1 (((layered_iff overridden).2 rfl).congr same)
  have zones : base.timeZone = other.timeZone ∨
      UtcOffset.ofZone? base.timeZone ≠ none ∧ UtcOffset.ofZone? other.timeZone ≠ none := by
    by_cases missing : env.get? "FORMSPEC_TIME_ZONE" = none
    · have zone := congrArg Settings.timeZone layers
      simp only [withEnvironment, missing, Option.getD_none] at zone
      exact .inl zone
    · exact .inr ⟨(zoneValid_iff overridden).1 (stands.resolve_left missing),
        (zoneValid_iff overridden').1 (stands'.resolve_left missing)⟩
  have dates : (base.withEnvironment env).dateLayouts = (other.withEnvironment env).dateLayouts :=
    congrArg _ layers
  have dateTimes :
      (base.withEnvironment env).dateTimeLayouts = (other.withEnvironment env).dateTimeLayouts :=
    congrArg _ layers
  have checks : base.check = other.check := check_congr zones dates dateTimes
  rw [ofFileAndEnvironment_eq file overridden, ofFileAndEnvironment_eq file' overridden', checks,
    layers]

end

end

/-- Where a file with members of the right types has no invalid time zone that the environment
replaces, loading succeeds just if the layers pass the check and gives these, and a member for which
the environment has a value does not matter. Otherwise the file is refused for its time zone. -/
theorem loads_layers {octets : List UInt8} {overrides : Entries Json} (env : Environment)
    (file : TomlFile octets overrides) (typed : Typed overrides) :
    ∃ s, (∀ other, Layered overrides env other ↔ other = s) ∧
      (ZoneStands overrides env →
        (∀ result, ofFileAndEnvironment .toml (some octets) env = .ok result ↔
          result = s ∧ s.check = .ok ()) ∧
        ∀ octets' others, TomlFile octets' others → Typed others → ZoneStands others env →
          (∀ name ∈ memberNames, ¬ Shadowed env name → overrides.get? name = others.get? name) →
          ofFileAndEnvironment .toml (some octets') env =
            ofFileAndEnvironment .toml (some octets) env) ∧
      (¬ ZoneStands overrides env →
        ∃ zone, overrides.get? "time_zone" = some (.text zone) ∧
          UtcOffset.ofZone? zone = none ∧ ofFileAndEnvironment .toml (some octets) env =
            .error (.configuration (.invalidTimeZone zone))) := by
  obtain ⟨base, overridden⟩ := exists_overridden typed
  refine ⟨base.withEnvironment env, fun other => layered_iff overridden,
    fun stands => ⟨fun result => ?_, ?_⟩, fun replaced => ?_⟩
  · exact ofFileAndEnvironment_eq_ok_iff file overridden stands
  · intro octets' others file' typed' stands' same
    obtain ⟨other, overridden'⟩ := exists_overridden typed'
    exact ofFileAndEnvironment_congr file file' overridden overridden' stands stands' same
  · have invalid : ¬ ZoneValid overrides := fun valid => replaced (.inr valid)
    obtain ⟨unknown, refused⟩ := ofFileAndEnvironment_of_invalid_zone file overridden invalid
    exact ⟨base.timeZone, get?_of_invalid_zone overridden unknown, unknown, refused⟩

theorem loads_debug_off :
    ofFileAndEnvironment .toml
        (some (Text.Utf8.encode "debug = true\nlog_level = \"warn\"".toList))
        [("FORMSPEC_DEBUG", " Off "), ("FORMSPEC_TIME_ZONE", "-05:30")] =
      .ok { standard with timeZone := "-05:30", logLevel := "warn" } := by
  have file : TomlFile (Text.Utf8.encode "debug = true\nlog_level = \"warn\"".toList)
      [("debug", .bool true), ("log_level", .text "warn")] := by
    refine .intro ?_ (?_ : Toml.read "debug = true\nlog_level = \"warn\"".toList =
      some (.table [("debug", .boolean true), ("log_level", .text "warn")])) ?_
    · decide +kernel
    · decide +kernel
    · exact Toml.sameData_iff.2 rfl
  have typed : Typed [("debug", .bool true), ("log_level", .text "warn")] := by
    refine ⟨?_, ?_, fun _ found => ⟨true, (Option.some.inj found).symm⟩,
      fun _ found => ⟨"warn", (Option.some.inj found).symm⟩, ?_, ?_⟩ <;> rintro _ ⟨⟩
  obtain ⟨s, layers, loads, _⟩ := loads_layers
    [("FORMSPEC_DEBUG", " Off "), ("FORMSPEC_TIME_ZONE", "-05:30")] file typed
  have off : Switches " Off " false := (switches_iff _ _).2 (by decide +kernel)
  have result : { standard with timeZone := "-05:30", logLevel := "warn" } = s := by
    refine (layers _).1 ⟨.absent rfl, .absent rfl, .given rfl off, .absent rfl (.given rfl),
      .given rfl rfl, .absent rfl (.absent rfl)⟩
  have valid : ZoneValid [("debug", .bool true), ("log_level", .text "warn")] := by rintro _ ⟨⟩
  exact ((loads (.inr valid)).1 _).2 ⟨result, result ▸ rfl⟩

/-- The environment has a valid time zone in place of an invalid one. -/
theorem refuses_replaced_zone :
    TomlFile (Text.Utf8.encode "time_zone = \"nowhere\"".toList) [("time_zone", .text "nowhere")] ∧
      Typed [("time_zone", .text "nowhere")] ∧
      Layered [("time_zone", .text "nowhere")] [("FORMSPEC_TIME_ZONE", "UTC")]
        { standard with timeZone := "UTC" } ∧
      check { standard with timeZone := "UTC" } = .ok () ∧
      ofFileAndEnvironment .toml (some (Text.Utf8.encode "time_zone = \"nowhere\"".toList))
          [("FORMSPEC_TIME_ZONE", "UTC")] =
        .error (.configuration (.invalidTimeZone "nowhere")) := by
  have file : TomlFile (Text.Utf8.encode "time_zone = \"nowhere\"".toList)
      [("time_zone", .text "nowhere")] := by
    refine .intro ?_ (?_ : Toml.read "time_zone = \"nowhere\"".toList =
      some (.table [("time_zone", .text "nowhere")])) ?_
    · decide +kernel
    · decide +kernel
    · exact Toml.sameData_iff.2 rfl
  have overridden : Overridden [("time_zone", .text "nowhere")]
      { standard with timeZone := "nowhere" } :=
    ⟨.absent rfl, .absent rfl, .absent rfl, .absent rfl, .given rfl, .absent rfl⟩
  have invalid : ¬ ZoneValid [("time_zone", .text "nowhere")] :=
    fun valid => valid "nowhere" rfl rfl
  refine ⟨file, ?_, ?_, rfl, (ofFileAndEnvironment_of_invalid_zone file overridden invalid).2⟩
  · refine ⟨?_, ?_, ?_, ?_, fun _ found => ⟨"nowhere", (Option.some.inj found).symm⟩, ?_⟩ <;>
      rintro _ ⟨⟩
  · exact ⟨.absent rfl, .absent rfl, .absent rfl (.absent rfl), .absent rfl (.absent rfl),
      .given rfl rfl, .absent rfl (.absent rfl)⟩

end FormIntake.Settings
