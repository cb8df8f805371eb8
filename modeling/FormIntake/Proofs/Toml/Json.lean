import FormIntake.Proofs.Record.Lasting
import FormIntake.Toml.Json
import Mathlib.Data.List.Forall2

namespace FormIntake.Toml

def Marked (members : List (String × Toml)) : Prop :=
  members.head?.map Prod.fst = some dateTimeKey

inductive SameData : Toml → Json → Prop
  | text (s : String) : SameData (.text s) (.text s)
  | integer {n : IntWidth.i64.Value} (fits : -2 ^ 63 ≤ n.val ∧ n.val < 2 ^ 64) :
      SameData (.integer n) (.int n.val fits)
  | float {x : Binary64} (finite : x.isFinite = true) : SameData (.float x) (.float x finite)
  | notFinite {x : Binary64} (outside : x.isFinite = false) : SameData (.float x) .null
  | boolean (b : Bool) : SameData (.boolean b) (.bool b)
  | dateTime (written : String) : SameData (.dateTime written) (.text written)
  | array {items : List Toml} {values : List Json} (same : List.Forall₂ SameData items values) :
      SameData (.array items) (.array values)
  | table {members : List (String × Toml)} {fields : List (String × Json)}
      (plain : ¬ Marked members) (names : members.map Prod.fst = fields.map Prod.fst)
      (same : List.Forall₂ SameData (members.map Prod.snd) (fields.map Prod.snd)) :
      SameData (.table members) (.ofMembers fields)
  | marked {value : Toml} {rest : List (String × Toml)} {json : Json}
      (stands : markedDateTime? value = some json) :
      SameData (.table ((dateTimeKey, value) :: rest)) json

/-- Somewhere in the value a table begins with the key of date-times and stands for none. -/
inductive Misdated : Toml → Prop
  | here {value : Toml} {rest : List (String × Toml)} (fails : markedDateTime? value = none) :
      Misdated (.table ((dateTimeKey, value) :: rest))
  | inArray {items : List Toml} {item : Toml} (member : item ∈ items) (inside : Misdated item) :
      Misdated (.array items)
  | inTable {members : List (String × Toml)} {value : Toml} (plain : ¬ Marked members)
      (member : value ∈ members.map Prod.snd) (inside : Misdated value) :
      Misdated (.table members)

theorem toJson?_table {members : List (String × Toml)} (plain : ¬ Marked members) :
    toJson? (.table members) = (membersToJson? members).map .ofMembers := by
  cases members with
  | nil => rfl
  | cons head rest =>
    obtain ⟨name, value⟩ := head
    have other : name ≠ dateTimeKey := fun same => plain (congrArg some same)
    simp only [toJson?, membersToJson?, if_neg other, bind, Option.bind, pure]
    cases toJson? value <;> cases membersToJson? rest <;> rfl

theorem toJson?_marked (value : Toml) (rest : List (String × Toml)) :
    toJson? (.table ((dateTimeKey, value) :: rest)) = markedDateTime? value := by
  rw [toJson?, if_pos rfl]

theorem sameData_float_iff {x : Binary64} {json : Json} :
    SameData (.float x) json ↔ json = .ofFloat x := by
  constructor
  · intro same
    cases same with
    | float finite => exact (Json.ofFloat_of_isFinite finite).symm
    | notFinite outside => exact (Json.ofFloat_of_not_isFinite outside).symm
  · rintro rfl
    cases finite : x.isFinite with
    | true =>
      rw [Json.ofFloat_of_isFinite finite]
      exact .float finite
    | false =>
      rw [Json.ofFloat_of_not_isFinite finite]
      exact .notFinite finite

theorem sameData_table_iff {members : List (String × Toml)} (plain : ¬ Marked members)
    {json : Json} :
    SameData (.table members) json ↔ ∃ fields, (members.map Prod.fst = fields.map Prod.fst ∧
      List.Forall₂ SameData (members.map Prod.snd) (fields.map Prod.snd)) ∧
      .ofMembers fields = json := by
  constructor
  · intro same
    cases same with
    | table _ names same => exact ⟨_, ⟨names, same⟩, rfl⟩
    | marked => exact absurd rfl plain
  · rintro ⟨fields, ⟨names, same⟩, rfl⟩
    exact .table plain names same

theorem sameData_marked_iff {value : Toml} {rest : List (String × Toml)} {json : Json} :
    SameData (.table ((dateTimeKey, value) :: rest)) json ↔ markedDateTime? value = some json := by
  constructor
  · intro same
    cases same with
    | table plain => exact absurd rfl plain
    | marked stands => exact stands
  · exact .marked

mutual

theorem sameData_iff : ∀ {t : Toml} {json : Json}, SameData t json ↔ toJson? t = some json
  | .text s, _ | .integer n, _ | .boolean b, _ | .dateTime written, _ => by
    constructor
    · rintro ⟨⟩
      rfl
    · rintro ⟨⟩
      constructor
  | .float x, json => by
    rw [sameData_float_iff, toJson?, Option.some_inj, eq_comm]
  | .array items, json => by
    rw [toJson?, Option.map_eq_some_iff]
    constructor
    · intro same
      cases same with
      | array same => exact ⟨_, forall₂_sameData_iff.1 same, rfl⟩
    · rintro ⟨values, found, rfl⟩
      exact .array (forall₂_sameData_iff.2 found)
  | .table members, json => by
    by_cases marked : Marked members
    · cases members with
      | nil => cases marked
      | cons head rest =>
        obtain ⟨name, value⟩ := head
        obtain rfl : name = dateTimeKey := Option.some.inj marked
        rw [sameData_marked_iff, toJson?_marked]
    · rw [sameData_table_iff marked, toJson?_table marked, Option.map_eq_some_iff]
      exact exists_congr fun fields => and_congr_left' sameMembers_iff

theorem forall₂_sameData_iff : ∀ {items : List Toml} {values : List Json},
    List.Forall₂ SameData items values ↔ itemsToJson? items = some values
  | [], values => by
    rw [List.forall₂_nil_left_iff, itemsToJson?, Option.some_inj, eq_comm]
  | item :: rest, values => by
    rw [List.forall₂_cons_left_iff, itemsToJson?]
    simp only [sameData_iff, forall₂_sameData_iff, bind, Option.bind_eq_some_iff, pure,
      Option.some_inj, eq_comm (a := values), exists_and_left]

theorem sameMembers_iff : ∀ {members : List (String × Toml)} {fields : List (String × Json)},
    (members.map Prod.fst = fields.map Prod.fst ∧
      List.Forall₂ SameData (members.map Prod.snd) (fields.map Prod.snd)) ↔
      membersToJson? members = some fields
  | [], fields => by
    cases fields <;> simp [membersToJson?]
  | (name, value) :: rest, [] => by
    simp [membersToJson?, bind, Option.bind_eq_some_iff]
  | (name, value) :: rest, (other, json) :: fields => by
    simp only [List.map_cons, List.cons.injEq, List.forall₂_cons, sameData_iff, membersToJson?,
      bind, Option.bind_eq_some_iff, pure, Option.some_inj, Prod.mk.injEq, ← sameMembers_iff]
    constructor
    · rintro ⟨⟨rfl, names⟩, first, same⟩
      exact ⟨json, first, fields, ⟨names, same⟩, ⟨rfl, rfl⟩, rfl⟩
    · rintro ⟨_, first, _, ⟨names, same⟩, ⟨rfl, rfl⟩, rfl⟩
      exact ⟨⟨rfl, names⟩, first, same⟩

end

mutual

theorem misdated_of_toJson? : ∀ {t : Toml}, toJson? t = none → Misdated t
  | .text _, missing | .integer _, missing | .float _, missing | .boolean _, missing
  | .dateTime _, missing => by cases missing
  | .array items, missing => by
    rw [toJson?, Option.map_eq_none_iff] at missing
    obtain ⟨item, member, inside⟩ := exists_misdated_item missing
    exact .inArray member inside
  | .table members, missing => by
    by_cases marked : Marked members
    · cases members with
      | nil => cases marked
      | cons head rest =>
        obtain ⟨name, value⟩ := head
        obtain rfl : name = dateTimeKey := Option.some.inj marked
        rw [toJson?_marked] at missing
        exact .here missing
    · rw [toJson?_table marked, Option.map_eq_none_iff] at missing
      obtain ⟨value, member, inside⟩ := exists_misdated_value missing
      exact .inTable marked member inside

theorem exists_misdated_item : ∀ {items : List Toml}, itemsToJson? items = none →
    ∃ item ∈ items, Misdated item
  | item :: rest, missing => by
    cases first : toJson? item with
    | none => exact ⟨item, List.mem_cons_self, misdated_of_toJson? first⟩
    | some json =>
      have later : itemsToJson? rest = none := by
        cases found : itemsToJson? rest with
        | none => rfl
        | some values => simp [itemsToJson?, first, found] at missing
      obtain ⟨item, member, inside⟩ := exists_misdated_item later
      exact ⟨item, List.mem_cons_of_mem _ member, inside⟩

theorem exists_misdated_value : ∀ {members : List (String × Toml)},
    membersToJson? members = none → ∃ value ∈ members.map Prod.snd, Misdated value
  | (name, value) :: rest, missing => by
    cases first : toJson? value with
    | none => exact ⟨value, List.mem_cons_self, misdated_of_toJson? first⟩
    | some json =>
      have later : membersToJson? rest = none := by
        cases found : membersToJson? rest with
        | none => rfl
        | some fields => simp [membersToJson?, first, found] at missing
      obtain ⟨value, member, inside⟩ := exists_misdated_value later
      exact ⟨value, List.mem_cons_of_mem _ member, inside⟩

end

theorem itemsToJson?_eq_none {items : List Toml} {item : Toml} (member : item ∈ items)
    (fails : toJson? item = none) : itemsToJson? items = none := by
  induction items with
  | nil => cases member
  | cons head rest ih =>
    rw [itemsToJson?]
    rcases List.mem_cons.1 member with rfl | later
    · rw [fails]
      rfl
    · rw [ih later]
      cases toJson? head <;> rfl

theorem membersToJson?_eq_none {members : List (String × Toml)} {value : Toml}
    (member : value ∈ members.map Prod.snd) (fails : toJson? value = none) :
    membersToJson? members = none := by
  induction members with
  | nil => cases member
  | cons head rest ih =>
    obtain ⟨name, first⟩ := head
    rw [membersToJson?]
    rcases List.mem_cons.1 member with here | later
    · cases here
      rw [fails]
      rfl
    · rw [ih later]
      cases toJson? first <;> rfl

theorem toJson?_of_misdated {t : Toml} (misdated : Misdated t) : toJson? t = none := by
  induction misdated with
  | here fails => rw [toJson?_marked, fails]
  | inArray member _ ih => rw [toJson?, itemsToJson?_eq_none member ih, Option.map_none]
  | inTable plain member _ ih =>
    rw [toJson?_table plain, membersToJson?_eq_none member ih, Option.map_none]

/-- A value has one JSON value with its data, unless a date-time in it is none. -/
theorem exists_sameData (t : Toml) :
    (∃ json, ∀ other, SameData t other ↔ other = json) ∨ Misdated t := by
  cases found : toJson? t with
  | none => exact .inr (misdated_of_toJson? found)
  | some json =>
    refine .inl ⟨json, fun other => ?_⟩
    rw [sameData_iff, found, Option.some_inj, eq_comm]

end FormIntake.Toml
