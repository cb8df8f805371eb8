import FormIntake.Json
import Mathlib.Logic.Basic

namespace FormIntake.Json

def IsObject : Json → Prop
  | .object _ => True
  | _ => False

variable {members overlay : Entries Json}

theorem merge_eq_right {base value : Json} (apart : ¬ (base.IsObject ∧ value.IsObject)) :
    base.merge value = value := by
  cases value with
  | object overlay =>
    cases base with
    | object members => exact absurd ⟨trivial, trivial⟩ apart
    | null | bool | int | float | text | array => rfl
  | null | bool | int | float | text | array => rfl

theorem get?_mergeMembers (ordered : overlay.Ordered) (name : String) :
    Entries.get? (mergeMembers members overlay) name =
      match overlay.get? name with
      | some value => some (((members.get? name).map (·.merge value)).getD value)
      | none => members.get? name := by
  induction overlay generalizing members with
  | nil => rfl
  | cons head rest ih =>
    obtain ⟨first, value⟩ := head
    have above := (List.pairwise_cons.1 ordered).1
    have joined : mergeMembers members ((first, value) :: rest) =
        mergeMembers (members.insert first (((members.get? first).map (·.merge value)).getD value))
          rest := by
      rw [mergeMembers]
      cases members.get? first <;> rfl
    rw [joined, ih (List.pairwise_cons.1 ordered).2, Entries.get?_insert, Entries.get?]
    by_cases here : first = name
    · subst here
      rw [if_pos rfl, if_pos rfl, Entries.get?_eq_none_of_below above]
    · rw [if_neg here, if_neg here]

theorem get?_mergeMembers_of_plain (ordered : overlay.Ordered) {name : String} {old : Json}
    (present : members.get? name = some old) (plain : ¬ old.IsObject) :
    Entries.get? (mergeMembers members overlay) name = some ((overlay.get? name).getD old) := by
  rw [get?_mergeMembers ordered, present]
  cases overlay.get? name with
  | none => rfl
  | some value => exact congrArg some (merge_eq_right fun both => plain both.1)

/-- The members of every object inside are in order, as inserting them one by one leaves them. -/
inductive WellFormed : Json → Prop
  | null : WellFormed .null
  | bool (value : Bool) : WellFormed (.bool value)
  | int (value : Int) (fits : -2 ^ 63 ≤ value ∧ value < 2 ^ 64) : WellFormed (.int value fits)
  | float (value : Binary64) (finite : value.isFinite = true) : WellFormed (.float value finite)
  | text (value : String) : WellFormed (.text value)
  | array {items : List Json} (inside : ∀ item ∈ items, WellFormed item) :
      WellFormed (.array items)
  | object {members : Entries Json} (ordered : members.Ordered)
      (inside : ∀ entry ∈ members, WellFormed entry.2) : WellFormed (.object members)

def at? : Json → List String → Option Json
  | value, [] => some value
  | .object members, name :: path => (Entries.get? members name).bind fun value => value.at? path
  | _, _ :: _ => none

/-- Behind the names of a path there are `old` in `base` and `value` in `overlay`, and all around
them are objects. -/
inductive Meet (base overlay : Json) : List String → Json → Json → Prop
  | root : Meet base overlay [] base overlay
  | member {path : List String} {members laid : Entries Json} {name : String} {old value : Json}
      (around : Meet base overlay path (.object members) (.object laid))
      (left : members.get? name = some old) (right : laid.get? name = some value) :
      Meet base overlay (path ++ [name]) old value

/-- The members of two objects in one. What both have is left open where both values are objects. -/
structure Joins (members laid joined : Entries Json) : Prop where
  ordered : joined.Ordered
  keys : ∀ name, name ∈ joined.keys ↔ name ∈ members.keys ∨ name ∈ laid.keys
  kept : ∀ name, name ∉ laid.keys → joined.get? name = members.get? name
  added : ∀ name, name ∉ members.keys → joined.get? name = laid.get? name
  replaced : ∀ name old value, members.get? name = some old → laid.get? name = some value →
    ¬ (old.IsObject ∧ value.IsObject) → joined.get? name = some value

section

variable {base value old inner : Json} {path : List String} {name : String}

theorem WellFormed.get? (wellFormed : WellFormed (.object members))
    (found : members.get? name = some value) : value.WellFormed := by
  cases wellFormed with
  | object _ inside => exact inside _ (Entries.mem_of_get? found)

theorem WellFormed.ordered (wellFormed : WellFormed (.object members)) : members.Ordered := by
  cases wellFormed with
  | object ordered _ => exact ordered

theorem wellFormed_object_iff : WellFormed (.object members) ↔
    members.Ordered ∧ ∀ name value, members.get? name = some value → value.WellFormed := by
  constructor
  · intro wellFormed
    exact ⟨wellFormed.ordered, fun _ _ found => wellFormed.get? found⟩
  · rintro ⟨ordered, inside⟩
    exact .object ordered fun entry member => inside _ _ (Entries.get?_of_mem ordered member)

theorem ordered_mergeMembers (ordered : members.Ordered) :
    Entries.Ordered (mergeMembers members overlay) := by
  induction overlay generalizing members with
  | nil => exact ordered
  | cons head rest ih => exact ih (Entries.ordered_insert ordered _ _)

theorem joins_mergeMembers (ordered : members.Ordered) (sorted : overlay.Ordered) :
    Joins members overlay (mergeMembers members overlay) where
  ordered := ordered_mergeMembers ordered
  keys name := by
    rw [← not_iff_not, not_or, ← Entries.get?_eq_none_iff, ← Entries.get?_eq_none_iff,
      ← Entries.get?_eq_none_iff, get?_mergeMembers sorted]
    cases overlay.get? name <;> simp
  kept name absent := by
    rw [get?_mergeMembers sorted, Entries.get?_eq_none_iff.2 absent]
  added name absent := by
    rw [get?_mergeMembers sorted, Entries.get?_eq_none_iff.2 absent]
    cases overlay.get? name <;> rfl
  replaced name old value left right apart := by
    rw [get?_mergeMembers sorted, left, right]
    exact congrArg some (merge_eq_right apart)

theorem WellFormed.merge (base : Json) (left : base.WellFormed) (right : value.WellFormed) :
    (base.merge value).WellFormed := by
  induction right generalizing base with
  | null => exact .null
  | bool b => exact .bool b
  | int n fits => exact .int n fits
  | float x finite => exact .float x finite
  | text s => exact .text s
  | array inside => exact .array inside
  | @object laid ordered inside ih =>
    cases base with
    | object members =>
      have joined : Entries.Ordered (mergeMembers members laid) := ordered_mergeMembers left.ordered
      refine wellFormed_object_iff.2 ⟨joined, fun name merged found => ?_⟩
      rw [get?_mergeMembers ordered] at found
      cases right : Entries.get? laid name with
      | none =>
        rw [right] at found
        exact left.get? found
      | some value =>
        rw [right] at found
        cases Option.some.inj found
        have member := Entries.mem_of_get? right
        cases old : Entries.get? members name with
        | none => exact inside _ member
        | some old' => exact ih _ member old' (left.get? old)
    | null | bool | int | float | text | array => exact .object ordered inside

theorem merge_self (wellFormed : value.WellFormed) : value.merge value = value := by
  induction wellFormed with
  | null | bool | int | float | text | array => rfl
  | @object members ordered inside ih =>
    refine congrArg object (Entries.ext_get? (ordered_mergeMembers ordered) ordered fun name => ?_)
    rw [get?_mergeMembers ordered]
    cases found : Entries.get? members name with
    | none => rfl
    | some value => exact congrArg some (ih _ (Entries.mem_of_get? found))

theorem merge_merge (left : base.WellFormed) (right : value.WellFormed) :
    (base.merge value).merge value = base.merge value := by
  induction right generalizing base with
  | null | bool | int | float | text | array => rfl
  | @object laid ordered inside ih =>
    cases base with
    | object members =>
      have joined : Entries.Ordered (mergeMembers members laid) := ordered_mergeMembers left.ordered
      refine congrArg object (Entries.ext_get? (ordered_mergeMembers joined) joined fun name => ?_)
      rw [get?_mergeMembers ordered, get?_mergeMembers ordered]
      cases right : Entries.get? laid name with
      | none => rfl
      | some value =>
        have member := Entries.mem_of_get? right
        cases old : Entries.get? members name with
        | none => exact congrArg some (merge_self (inside _ member))
        | some old' => exact congrArg some (ih _ member (left.get? old))
    | null | bool | int | float | text | array => exact merge_self (.object ordered inside)

theorem at?_concat (value : Json) (path : List String) (name : String) :
    value.at? (path ++ [name]) = (value.at? path).bind fun found => found.at? [name] := by
  induction path generalizing value with
  | nil => rfl
  | cons first path ih =>
    cases value with
    | object members =>
      simp only [List.cons_append, at?]
      cases Entries.get? members first with
      | none => rfl
      | some inner => exact ih inner
    | null | bool | int | float | text | array => rfl

theorem Meet.wellFormed (meet : Meet base value path old inner) (left : base.WellFormed)
    (right : value.WellFormed) : old.WellFormed ∧ inner.WellFormed := by
  induction meet with
  | root => exact ⟨left, right⟩
  | member _ found found' ih => exact ⟨ih.1.get? found, ih.2.get? found'⟩

theorem Meet.at?_merge (meet : Meet base value path old inner) (left : base.WellFormed)
    (right : value.WellFormed) : (base.merge value).at? path = some (old.merge inner) := by
  induction meet with
  | root => rfl
  | @member path members laid name old inner around found found' ih =>
    have ordered := (around.wellFormed left right).2.ordered
    have joined : Entries.get? (mergeMembers members laid) name = some (old.merge inner) := by
      rw [get?_mergeMembers ordered, found, found']
      rfl
    rw [at?_concat, ih, Option.bind_some]
    show (Entries.get? (mergeMembers members laid) name).bind (fun value => value.at? []) = _
    rw [joined]
    rfl

theorem Meet.exists_joined (meet : Meet base value path (.object members) (.object overlay))
    (left : base.WellFormed) (right : value.WellFormed) :
    ∃ joined, (base.merge value).at? path = some (.object joined) ∧
      Joins members overlay joined := by
  obtain ⟨here, there⟩ := meet.wellFormed left right
  exact ⟨mergeMembers members overlay, meet.at?_merge left right,
    joins_mergeMembers here.ordered there.ordered⟩

end

/-- Wherever two objects meet their members are joined, and a member that is not an object in both
is kept or replaced whole. To lay a value onto itself, or onto a value that it has been laid
onto before, changes nothing, and neither does laying on an object without members. -/
theorem merge_at_every_depth {base overlay : Json} (left : base.WellFormed)
    (right : overlay.WellFormed) :
    (base.merge overlay).WellFormed ∧
    (∀ path members laid, Meet base overlay path (.object members) (.object laid) →
      ∃ joined, (base.merge overlay).at? path = some (.object joined) ∧
        Joins members laid joined) ∧
    (¬ (base.IsObject ∧ overlay.IsObject) → base.merge overlay = overlay) ∧
    overlay.merge overlay = overlay ∧
    (base.merge overlay).merge overlay = base.merge overlay ∧
    (base.IsObject → base.merge (.object []) = base) := by
  refine ⟨left.merge base right, fun path members laid meet => meet.exists_joined left right,
    merge_eq_right, merge_self right, merge_merge left right, fun object => ?_⟩
  cases base with
  | object members => rfl
  | null | bool | int | float | text | array => cases object

theorem merge_at_every_depth_nested :
    ∃ joined, ((object [("a", .object [("b", .null), ("c", .object [])]), ("d", .null)]).merge
        (object [("a", .object [("c", .text "x"), ("e", .bool true)])])).at? ["a"] =
          some (.object joined) ∧
      (∀ name, name ∈ Entries.keys joined ↔ name ∈ ["b", "c"] ∨ name ∈ ["c", "e"]) ∧
      Entries.get? joined "b" = some .null ∧ Entries.get? joined "c" = some (.text "x") ∧
      Entries.get? joined "e" = some (.bool true) := by
  have left : (object [("a", .object [("b", .null), ("c", .object [])]),
      ("d", .null)]).WellFormed := by
    refine .object (by decide) (List.forall_mem_cons.2 ⟨?_, List.forall_mem_singleton.2 .null⟩)
    exact .object (by decide) (List.forall_mem_cons.2 ⟨.null,
      List.forall_mem_singleton.2 (.object (by decide) (by simp))⟩)
  have right : (object [("a", .object [("c", .text "x"), ("e", .bool true)])]).WellFormed := by
    refine .object (by decide) (List.forall_mem_singleton.2 ?_)
    exact .object (by decide) (List.forall_mem_cons.2 ⟨.text "x",
      List.forall_mem_singleton.2 (.bool true)⟩)
  obtain ⟨_, places, _⟩ := merge_at_every_depth left right
  obtain ⟨joined, found, joins⟩ := places ["a"] _ _ (.member .root rfl rfl)
  exact ⟨joined, found, joins.keys, joins.kept "b" (by decide),
    joins.replaced "c" _ _ rfl rfl fun both => both.2, joins.added "e" (by decide)⟩

end FormIntake.Json
