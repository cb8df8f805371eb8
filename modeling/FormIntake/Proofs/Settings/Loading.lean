import FormIntake.Proofs.Json.Merge
import FormIntake.Proofs.Toml.Json
import FormIntake.Settings.Loading

namespace FormIntake

namespace Json

theorem asBool_eq_ok_iff {json : Json} {b : Bool} : json.asBool = .ok b ↔ json = .bool b := by
  cases json <;> simp [asBool, wrongType]

theorem asText_eq_ok_iff {json : Json} {s : String} : json.asText = .ok s ↔ json = .text s := by
  cases json <;> simp [asText, wrongType]

theorem eq_texts_of_mapM {items : List Json} {texts : List String}
    (found : items.mapM asText = .ok texts) : items = texts.map .text := by
  induction items generalizing texts with
  | nil => cases found; rfl
  | cons item rest ih =>
    rw [List.mapM_cons] at found
    obtain ⟨s, first, found⟩ := bind_eq_ok found
    obtain ⟨others, later, found⟩ := bind_eq_ok found
    cases found
    rw [asText_eq_ok_iff.1 first, ih later, List.map_cons]

theorem asTexts_eq_ok_iff {json : Json} {texts : List String} :
    json.asTexts = .ok texts ↔ json = .ofTexts texts := by
  constructor
  · intro found
    cases json with
    | array items => rw [eq_texts_of_mapM found, ofTexts]
    | null | bool | int | float | text | object => cases found
  · rintro rfl
    exact asTexts_ofTexts texts

end Json

namespace Settings

/-- The value of a member is what `overrides` have for it, or else the standard value. -/
inductive Takes {α : Type} (overrides : Entries Json) (name : String) (write : α → Json)
    (usual : α) : α → Prop
  | given {value : α} (found : overrides.get? name = some (write value)) :
      Takes overrides name write usual value
  | absent (missing : overrides.get? name = none) : Takes overrides name write usual usual

/-- The standard settings with the members of an object in their place. -/
structure Overridden (overrides : Entries Json) (s : Settings) : Prop where
  dateLayouts : Takes overrides "date_formats" .ofTexts standard.dateLayouts s.dateLayouts
  dateTimeLayouts :
    Takes overrides "date_time_formats" .ofTexts standard.dateTimeLayouts s.dateTimeLayouts
  debug : Takes overrides "debug" .bool standard.debug s.debug
  logLevel : Takes overrides "log_level" .text standard.logLevel s.logLevel
  timeZone : Takes overrides "time_zone" .text standard.timeZone s.timeZone
  trimWhitespace : Takes overrides "trim_whitespace" .bool standard.trimWhitespace s.trimWhitespace

def memberNames : List String :=
  ["date_formats", "date_time_formats", "debug", "log_level", "time_zone", "trim_whitespace"]

def members (s : Settings) : Entries Json :=
  [("date_formats", .ofTexts s.dateLayouts), ("date_time_formats", .ofTexts s.dateTimeLayouts),
    ("debug", .bool s.debug), ("log_level", .text s.logLevel), ("time_zone", .text s.timeZone),
    ("trim_whitespace", .bool s.trimWhitespace)]

theorem toJson_eq_object (s : Settings) : s.toJson = .object s.members := rfl

theorem ordered_members (s : Settings) : s.members.Ordered := by
  have names : s.members.keys = memberNames := rfl
  rw [Entries.ordered_iff_keys, names]
  decide

theorem ofMembers_eq_ok_iff {found : Entries Json} {s : Settings} :
    ofMembers found = .ok s ↔
      Json.readMember found "date_formats" Json.asTexts = .ok s.dateLayouts ∧
      Json.readMember found "date_time_formats" Json.asTexts = .ok s.dateTimeLayouts ∧
      Json.readMember found "debug" Json.asBool = .ok s.debug ∧
      Json.readMember found "log_level" Json.asText = .ok s.logLevel ∧
      Json.readMember found "time_zone" Json.asText = .ok s.timeZone ∧
      Json.readMember found "trim_whitespace" Json.asBool = .ok s.trimWhitespace := by
  constructor
  · intro read
    obtain ⟨dateLayouts, first, read⟩ := bind_eq_ok read
    obtain ⟨dateTimeLayouts, second, read⟩ := bind_eq_ok read
    obtain ⟨debug, third, read⟩ := bind_eq_ok read
    obtain ⟨logLevel, fourth, read⟩ := bind_eq_ok read
    obtain ⟨timeZone, fifth, read⟩ := bind_eq_ok read
    obtain ⟨trimWhitespace, sixth, read⟩ := bind_eq_ok read
    cases read
    exact ⟨first, second, third, fourth, fifth, sixth⟩
  · rintro ⟨first, second, third, fourth, fifth, sixth⟩
    rw [ofMembers, first, second, third, fourth, fifth, sixth]
    rfl

theorem ofMembers_congr {left right : Entries Json}
    (same : ∀ name ∈ memberNames, left.get? name = right.get? name) :
    ofMembers left = ofMembers right := by
  have reads {α : Type} {name : String} {read : Json → Except Mismatch α}
      (member : name ∈ memberNames) :
      Json.readMember left name read = Json.readMember right name read := by
    rw [Json.readMember, Json.readMember, same name member]
  simp (disch := decide) only [ofMembers, reads]

section

variable {overrides : Entries Json}

theorem readMember_eq_ok_iff_takes {α : Type} {name : String} {read : Json → Except Mismatch α}
    {write : α → Json} {usual value : α} (ordered : overrides.Ordered)
    (reads : ∀ {json value}, read json = .ok value ↔ json = write value)
    (present : standard.members.get? name = some (write usual))
    (plain : ¬ (write usual).IsObject) :
    Json.readMember (Json.mergeMembers standard.members overrides) name read = .ok value ↔
      Takes overrides name write usual value := by
  have injective {a b : α} (same : write a = write b) : a = b :=
    Except.ok.inj ((reads.2 rfl).symm.trans (reads.2 same))
  rw [Json.readMember_eq_ok_iff, Json.get?_mergeMembers_of_plain ordered present plain]
  constructor
  · rintro ⟨json, found, read⟩
    cases reads.1 read
    cases given : overrides.get? name with
    | none =>
      rw [given] at found
      cases injective (Option.some.inj found)
      exact .absent given
    | some other =>
      rw [given] at found
      cases Option.some.inj found
      exact .given given
  · intro takes
    refine ⟨write value, ?_, reads.2 rfl⟩
    cases takes with
    | given found => rw [found]; rfl
    | absent missing => rw [missing]; rfl

theorem ofMembers_overrides_eq_ok_iff {s : Settings} (ordered : overrides.Ordered) :
    ofMembers (Json.mergeMembers standard.members overrides) = .ok s ↔ Overridden overrides s := by
  have texts (ts : List String) : ¬ (Json.ofTexts ts).IsObject := id
  rw [ofMembers_eq_ok_iff,
    readMember_eq_ok_iff_takes ordered Json.asTexts_eq_ok_iff rfl (texts _),
    readMember_eq_ok_iff_takes ordered Json.asTexts_eq_ok_iff rfl (texts _),
    readMember_eq_ok_iff_takes ordered Json.asBool_eq_ok_iff rfl id,
    readMember_eq_ok_iff_takes ordered Json.asText_eq_ok_iff rfl id,
    readMember_eq_ok_iff_takes ordered Json.asText_eq_ok_iff rfl id,
    readMember_eq_ok_iff_takes ordered Json.asBool_eq_ok_iff rfl id]
  constructor
  · rintro ⟨first, second, third, fourth, fifth, sixth⟩
    exact ⟨first, second, third, fourth, fifth, sixth⟩
  · rintro ⟨first, second, third, fourth, fifth, sixth⟩
    exact ⟨first, second, third, fourth, fifth, sixth⟩

theorem ofOverrides_object {format : Format} :
    ofOverrides format (.object overrides) =
      match ofMembers (Json.mergeMembers standard.members overrides) with
      | .ok s => s.checked
      | .error found => .error (.configuration (.mismatch format found)) := rfl

theorem checked_eq_ok_iff {s t : Settings} : s.checked = .ok t ↔ s = t ∧ t.check = .ok () := by
  unfold checked
  constructor
  · intro found
    split at found
    · next passed => cases found; exact ⟨rfl, passed⟩
    · cases found
  · rintro ⟨rfl, passed⟩
    rw [passed]

theorem ofOverrides_object_eq_ok_iff {format : Format} {s : Settings}
    (ordered : overrides.Ordered) :
    ofOverrides format (.object overrides) = .ok s ↔
      Overridden overrides s ∧ s.check = .ok () := by
  rw [ofOverrides_object, ← ofMembers_overrides_eq_ok_iff ordered]
  cases ofMembers (Json.mergeMembers standard.members overrides) with
  | error found => simp
  | ok t => rw [Except.ok.injEq]; exact checked_eq_ok_iff

theorem ofOverrides_object_congr {format : Format} {others : Entries Json}
    (ordered : overrides.Ordered) (ordered' : others.Ordered)
    (same : ∀ name ∈ memberNames, overrides.get? name = others.get? name) :
    ofOverrides format (.object overrides) = ofOverrides format (.object others) := by
  rw [ofOverrides_object, ofOverrides_object, ofMembers_congr]
  intro name member
  rw [Json.get?_mergeMembers ordered, Json.get?_mergeMembers ordered', same name member]

end

def inFormat (format : Format) : FormError → FormError
  | .configuration (.mismatch _ found) => .configuration (.mismatch format found)
  | fault => fault

theorem mapError_checked (format : Format) (s : Settings) :
    s.checked.mapError (inFormat format) = s.checked := by
  -- None of the faults that the check can find names a format.
  unfold checked check offset
  cases UtcOffset.ofZone? s.timeZone with
  | none => rfl
  | some offset =>
    cases s.dateLayouts with
    | nil => rfl
    | cons =>
      cases s.dateTimeLayouts with
      | nil => rfl
      | cons => rfl

theorem ofOverrides_inFormat (format other : Format) (json : Json) :
    ofOverrides format json = (ofOverrides other json).mapError (inFormat format) := by
  unfold ofOverrides
  cases ofJson (standard.toJson.merge json) with
  | error found => rfl
  | ok s => exact (mapError_checked format s).symm

def toToml (s : Settings) : Toml :=
  .table [("trim_whitespace", .boolean s.trimWhitespace), ("time_zone", .text s.timeZone),
    ("date_formats", .array (s.dateLayouts.map .text)),
    ("date_time_formats", .array (s.dateTimeLayouts.map .text)), ("log_level", .text s.logLevel),
    ("debug", .boolean s.debug)]

theorem ofOverrides_toJson {format : Format} {s : Settings} :
    ofOverrides format s.toJson = .ok s ↔ s.check = .ok () := by
  have same : Overridden s.members s :=
    ⟨.given rfl, .given rfl, .given rfl, .given rfl, .given rfl, .given rfl⟩
  rw [toJson_eq_object, ofOverrides_object_eq_ok_iff s.ordered_members]
  exact and_iff_right same

theorem sameData_texts (texts : List String) :
    Toml.SameData (.array (texts.map .text)) (.ofTexts texts) := by
  refine .array (List.forall₂_map_left_iff.2 (List.forall₂_map_right_iff.2 ?_))
  exact List.forall₂_same.2 fun s _ => .text s

theorem sameData_toToml (s : Settings) : Toml.SameData s.toToml s.toJson := by
  have sorted : s.toJson = .ofMembers [("trim_whitespace", .bool s.trimWhitespace),
      ("time_zone", .text s.timeZone), ("date_formats", .ofTexts s.dateLayouts),
      ("date_time_formats", .ofTexts s.dateTimeLayouts), ("log_level", .text s.logLevel),
      ("debug", .bool s.debug)] := rfl
  rw [sorted]
  have other : "trim_whitespace" ≠ Toml.dateTimeKey := by decide
  refine .table (fun marked => ?_) rfl ?_
  · exact other (Option.some.inj marked)
  · exact .cons (.boolean _) (.cons (.text _) (.cons (sameData_texts _) (.cons (sameData_texts _)
      (.cons (.text _) (.cons (.boolean _) .nil)))))

theorem ofText_json {text : List Char} {json : Json} (reads : Json.read text = some json) :
    ofText .json text = ofOverrides .json json := by
  simp only [ofText, readText, reads]

theorem ofText_toml {text : List Char} {t : Toml} {json : Json}
    (reads : Toml.read text = some t) (same : Toml.SameData t json) :
    ofText .toml text = ofOverrides .toml json := by
  simp only [ofText, readText, reads, Option.bind_some, Toml.sameData_iff.1 same]

theorem ofText_toml_misdated {text : List Char} {t : Toml}
    (reads : Toml.read text = some t) (misdated : t.Misdated) :
    ofText .toml text = .error (.configuration (.unreadable .toml)) := by
  simp only [ofText, readText, reads, Option.bind_some, Toml.toJson?_of_misdated misdated]

inductive Loaded (s : Settings) : Prop
  | ofOverrides {format : Format} {overrides : Json} (found : ofOverrides format overrides = .ok s)
  | ofText {format : Format} {text : List Char} (found : ofText format text = .ok s)
  | ofFile {format : Format} {file : Option (List UInt8)} (found : ofFile format file = .ok s)
  | ofEnvironment {env : Environment} (found : ofEnvironment env = .ok s)
  | ofFileAndEnvironment {format : Format} {file : Option (List UInt8)} {env : Environment}
      (found : ofFileAndEnvironment format file env = .ok s)

theorem check_of_ofOverrides {format : Format} {overrides : Json} {s : Settings}
    (found : ofOverrides format overrides = .ok s) : s.check = .ok () := by
  unfold ofOverrides at found
  split at found
  · exact (checked_eq_ok_iff.1 found).2
  · cases found

theorem check_of_ofText {format : Format} {text : List Char} {s : Settings}
    (found : ofText format text = .ok s) : s.check = .ok () := by
  unfold ofText at found
  split at found
  · exact check_of_ofOverrides found
  · cases found

theorem check_of_ofFile {format : Format} {file : Option (List UInt8)} {s : Settings}
    (found : ofFile format file = .ok s) : s.check = .ok () := by
  unfold ofFile at found
  split at found
  · cases found
  · split at found
    · exact check_of_ofText found
    · cases found

theorem Loaded.check {s : Settings} (loaded : s.Loaded) : s.check = .ok () := by
  cases loaded with
  | ofOverrides found => exact check_of_ofOverrides found
  | ofText found => exact check_of_ofText found
  | ofFile found => exact check_of_ofFile found
  | ofEnvironment found => exact (checked_eq_ok_iff.1 found).2
  | ofFileAndEnvironment found =>
    obtain ⟨_, _, found⟩ := bind_eq_ok found
    exact (checked_eq_ok_iff.1 found).2

inductive Serialized (s : Settings) : Format → List Char → Prop
  | json {text : List Char} (reads : Json.read text = some s.toJson) : Serialized s .json text
  | toml {text : List Char} (reads : Toml.read text = some s.toToml) : Serialized s .toml text

theorem ofText_serialized {format : Format} {text : List Char} {s : Settings}
    (written : s.Serialized format text) : ofText format text = .ok s ↔ s.check = .ok () := by
  cases written with
  | json reads =>
    rw [ofText_json reads]
    exact ofOverrides_toJson
  | toml reads =>
    rw [ofText_toml reads (sameData_toToml s)]
    exact ofOverrides_toJson

/-- Loading lays the members of an object onto the standard settings and checks the result. Both
formats agree on the same data, and what is loaded has passed the check. -/
theorem loads_overridden_and_checked :
    (∀ format overrides s, Entries.Ordered overrides →
      (ofOverrides format (.object overrides) = .ok s ↔
        Overridden overrides s ∧ s.check = .ok ())) ∧
    (∀ format overrides others, Entries.Ordered overrides → Entries.Ordered others →
      (∀ name ∈ memberNames, overrides.get? name = others.get? name) →
      ofOverrides format (.object overrides) = ofOverrides format (.object others)) ∧
    (∀ text json, Json.read text = some json → ofText .json text = ofOverrides .json json) ∧
    (∀ text t, Toml.read text = some t →
      (∃ json, (∀ other, Toml.SameData t other ↔ other = json) ∧
        ofText .toml text = (ofOverrides .json json).mapError (inFormat .toml)) ∨
      Toml.Misdated t ∧ ofText .toml text = .error (.configuration (.unreadable .toml))) ∧
    (∀ s, Loaded s → s.check = .ok ()) ∧
    (∀ format text s, Serialized s format text →
      (ofText format text = .ok s ↔ s.check = .ok ())) := by
  refine ⟨fun _ _ _ => ofOverrides_object_eq_ok_iff, fun _ _ _ => ofOverrides_object_congr,
    fun _ _ => ofText_json, fun text t reads => ?_, fun _ => Loaded.check,
    fun _ _ _ => ofText_serialized⟩
  rcases Toml.exists_sameData t with ⟨json, only⟩ | misdated
  · refine .inl ⟨json, only, ?_⟩
    rw [ofText_toml reads ((only json).2 rfl), ofOverrides_inFormat .toml .json]
  · exact .inr ⟨misdated, ofText_toml_misdated reads misdated⟩

theorem loads_debug_over_standard :
    ofText .toml "debug = true\ncolour = nan".toList = .ok { standard with debug := true } ∧
      ofOverrides .json (.object [("colour", .null), ("debug", .bool true)]) =
        ofOverrides .json (.object [("debug", .bool true)]) ∧
      ofText .json ("\x7b\"trim_whitespace\":false,\"time_zone\":\"UTC\"," ++
          "\"date_formats\":[\"%Y\"],\"date_time_formats\":[\"%H\"]," ++
          "\"log_level\":\"warn\",\"debug\":true\x7d").toList =
        .ok ⟨false, "UTC", ["%Y"], ["%H"], "warn", true⟩ := by
  obtain ⟨object, unaffected, -, toml, -, serialized⟩ := loads_overridden_and_checked
  have ordered : Entries.Ordered [("colour", Json.null), ("debug", .bool true)] :=
    Entries.ordered_iff_keys.2 (by decide)
  have debug : ofOverrides .json (.object [("colour", .null), ("debug", .bool true)]) =
      .ok { standard with debug := true } :=
    (object _ _ _ ordered).2
      ⟨⟨.absent rfl, .absent rfl, .given rfl, .absent rfl, .absent rfl, .absent rfl⟩, rfl⟩
  have same : Toml.SameData (.table [("debug", .boolean true), ("colour", .float .nan)])
      (.ofMembers [("debug", .bool true), ("colour", .null)]) := by
    have other : "debug" ≠ Toml.dateTimeKey := by decide
    refine .table (fun marked => other (Option.some.inj marked)) rfl ?_
    exact .cons (.boolean true) (.cons (.notFinite (by decide)) .nil)
  have apart : ∀ name ∈ memberNames,
      Entries.get? [("colour", Json.null), ("debug", .bool true)] name =
        Entries.get? [("debug", Json.bool true)] name := by
    intro name member
    have other : "colour" ≠ name := by
      rintro rfl
      exact absurd member (by decide)
    rw [Entries.get?, if_neg other]
  refine ⟨?_, unaffected _ _ _ ordered (List.pairwise_singleton _ _) apart, ?_⟩
  · have reads : Toml.read "debug = true\ncolour = nan".toList =
        some (.table [("debug", .boolean true), ("colour", .float .nan)]) := by decide +kernel
    rcases toml _ _ reads with ⟨json, only, loads⟩ | ⟨misdated, -⟩
    · obtain rfl := (only _).1 same
      exact loads.trans (congrArg (·.mapError (inFormat .toml)) debug)
    · have missing := Toml.toJson?_of_misdated misdated
      rw [Toml.sameData_iff.1 same] at missing
      cases missing
  · refine (serialized _ _ _ (.json ?_)).2 ?_
    · decide +kernel
    · rfl

end Settings

end FormIntake
