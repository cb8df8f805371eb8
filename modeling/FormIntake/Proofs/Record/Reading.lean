import FormIntake.Record.Transfer

namespace FormIntake

theorem bind_eq_ok {ε α β : Type} {x : Except ε α} {f : α → Except ε β} {b : β}
    (found : x >>= f = .ok b) : ∃ a, x = .ok a ∧ f a = .ok b := by
  cases x with
  | error fault => cases found
  | ok a => exact ⟨a, rfl, found⟩

theorem Json.readMember_eq_ok_iff {α : Type} {members : Entries Json} {name : String}
    {read : Json → Except Mismatch α} {value : α} :
    Json.readMember members name read = .ok value ↔
      ∃ json, members.get? name = some json ∧ read json = .ok value := by
  unfold Json.readMember
  cases members.get? name with
  | none => simp
  | some json => simp

namespace Record

theorem keys_shape (r : Record) : r.shape.keys = r.keys := Entries.keys_mapValues _ r

theorem keys_toJson (r : Record) : r.toJson.keys = r.keys := Entries.keys_mapValues _ r

theorem get?_toJson (r : Record) (name : String) :
    r.toJson.get? name = (r.get? name).map Member.toJson := Entries.get?_mapValues _ r name

theorem get?_shape (r : Record) (name : String) :
    r.shape.get? name = (r.get? name).map (·.type) := Entries.get?_mapValues _ r name

theorem keys_of_shape {a b : Record} (same : a.shape = b.shape) : a.keys = b.keys := by
  rw [← keys_shape, same, keys_shape]

theorem ordered_of_shape {a b : Record} (same : a.shape = b.shape) (ordered : b.Ordered) :
    a.Ordered := by
  rw [Entries.ordered_iff_keys, keys_of_shape same]
  exact Entries.ordered_iff_keys.1 ordered

theorem exists_member_of_shape {a b : Record} (same : a.shape = b.shape) {name : String}
    {m : Member} (found : b.get? name = some m) :
    ∃ value : m.type.Value, a.get? name = some ⟨m.type, value⟩ := by
  have types := congrArg (Entries.get? · name) same
  simp only [get?_shape, found, Option.map_some, Option.map_eq_some_iff] at types
  obtain ⟨⟨type, value⟩, found', rfl⟩ := types
  exact ⟨value, found'⟩

end Record

namespace Shape

theorem read_eq_ok_iff {s : Shape} {members : Entries Json} {r : Record} :
    s.read members = .ok r ↔ r.shape = s ∧ ∀ entry ∈ r, ∃ json,
      members.get? entry.1 = some json ∧ entry.2.type.read json = .ok entry.2.value := by
  induction s generalizing r with
  | nil =>
    constructor
    · intro found
      cases found
      exact ⟨rfl, by simp⟩
    · rintro ⟨same, _⟩
      cases r with
      | nil => rfl
      | cons head rest => cases same
  | cons head rest ih =>
    obtain ⟨name, type⟩ := head
    constructor
    · intro found
      obtain ⟨value, first, found⟩ := bind_eq_ok found
      obtain ⟨others, later, found⟩ := bind_eq_ok found
      cases found
      obtain ⟨shape, all⟩ := ih.1 later
      exact ⟨congrArg ((name, type) :: ·) shape,
        List.forall_mem_cons.2 ⟨Json.readMember_eq_ok_iff.1 first, all⟩⟩
    · rintro ⟨same, all⟩
      cases r with
      | nil => cases same
      | cons head others =>
        obtain ⟨name', type', value⟩ := head
        injection same with heads tails
        injection heads with names types
        subst names types
        obtain ⟨first, all⟩ := List.forall_mem_cons.1 all
        have head : Json.readMember members name' type'.read = .ok value :=
          Json.readMember_eq_ok_iff.2 first
        have tail : Shape.read rest members = .ok others := ih.2 ⟨tails, all⟩
        simp only [read, head, tail, bind, Except.bind, pure, Except.pure]

theorem exists_read {s : Shape} {members : Entries Json}
    (all : ∀ entry ∈ s, ∃ json value,
      members.get? entry.1 = some json ∧ entry.2.read json = .ok value) :
    ∃ r, s.read members = .ok r := by
  induction s with
  | nil => exact ⟨[], rfl⟩
  | cons head rest ih =>
    obtain ⟨name, type⟩ := head
    obtain ⟨⟨json, value, here, first⟩, all⟩ := List.forall_mem_cons.1 all
    obtain ⟨others, later⟩ := ih all
    have head : Json.readMember members name type.read = .ok value :=
      Json.readMember_eq_ok_iff.2 ⟨json, here, first⟩
    exact ⟨(name, ⟨type, value⟩) :: others, by
      simp only [read, head, later, bind, Except.bind, pure, Except.pure]⟩

theorem get?_read {s : Shape} {members : Entries Json} {r : Record} (found : s.read members = .ok r)
    {name : String} {m : Member} (member : r.get? name = some m) :
    ∃ json, members.get? name = some json ∧ m.type.read json = .ok m.value :=
  (read_eq_ok_iff.1 found).2 _ (Entries.mem_of_get? member)

end Shape

end FormIntake
