import FormIntake.Proofs.Record.Filling

namespace FormIntake

/-- No key of `values` is one of `names`, in any letter case. -/
def Unmatched (names : List String) (values : Cleaned) : Prop :=
  ∀ key ∈ values.keys, ∀ name ∈ names, Text.lowerCase key ≠ Text.lowerCase name

instance (names : List String) (values : Cleaned) : Decidable (Unmatched names values) :=
  inferInstanceAs (Decidable (∀ key ∈ values.keys, ∀ name ∈ names, _ ≠ _))

namespace Members

variable {old : Entries Json} {values : Cleaned}

theorem exactWrites_of_unmatched (unmatched : Unmatched old.keys values) :
    exactWrites old values = [] := by
  refine List.filter_eq_nil_iff.2 fun ⟨key, value⟩ given contained => ?_
  have inKeys : key ∈ values.keys := List.mem_map_of_mem given
  exact unmatched key inKeys key (Entries.contains_iff.1 contained) rfl

theorem foldedWrites_of_unmatched (unmatched : Unmatched old.keys values) :
    foldedWrites old values = [] := by
  refine List.filterMap_eq_nil_iff.2 fun ⟨key, value⟩ kept => ?_
  have inKeys : key ∈ values.keys := List.mem_map_of_mem (List.mem_filter.1 kept).1
  have unresolved : foldedName? old key = none := by
    refine List.find?_eq_none.2 fun name member => ?_
    simpa [sameFolded] using unmatched key inKeys name member
  exact Option.map_eq_none_iff.2 unresolved

theorem overlay_of_unmatched (unmatched : Unmatched old.keys values) :
    overlay old values = old := by
  rw [overlay, foldedWrites_of_unmatched unmatched, exactWrites_of_unmatched unmatched]
  rfl

end Members

namespace Record

variable {r : Record} {values : Cleaned}

theorem read_toJson_iff (ordered : r.Ordered) : r.shape.read r.toJson = .ok r ↔ r.Lasts := by
  constructor
  · exact Shape.lasts_of_read
  · intro lasts
    refine Shape.read_eq_ok_iff.2 ⟨rfl, fun ⟨name, m⟩ member => ⟨m.toJson, ?_, ?_⟩⟩
    · rw [get?_toJson, Entries.get?_of_mem ordered member]
      rfl
    · exact (lasts _ member).read_toJson

theorem on_transfer_of_unmatched (unmatched : Unmatched r.keys values) :
    (transfer values).on (Target.record r) =
      match r.shape.read r.toJson with
      | .ok filled => (.ok (), .record filled)
      | .error found => (.error (.transfer (.unfillable found)), .record r) := by
  have names : r.toJson.keys = r.keys := keys_toJson r
  have result := Target.on_transfer_record r values
  rw [Members.overlay_of_unmatched (names ▸ unmatched)] at result
  exact result

/-- Where no key goes to a member, a record stays as it is just if its members last. This speaks of
date-times whose local time is in the calendar; an instant that is in it when its local time is not
has no value here. -/
theorem on_transfer_unmatched_iff (ordered : r.Ordered) (unmatched : Unmatched r.keys values) :
    (transfer values).on (Target.record r) = (.ok (), .record r) ↔ r.Lasts := by
  rw [on_transfer_of_unmatched unmatched, ← read_toJson_iff ordered]
  cases r.shape.read r.toJson with
  | error found => simp
  | ok filled => simp

def measurement : Record :=
  [("at", ⟨.plain .dateTime,
      ⟨⟨⟨2017, 2, 25, by decide⟩, ⟨10, 30, 15, 250, by decide⟩⟩, ⟨19800, by decide⟩, by decide⟩⟩),
    ("name", ⟨.plain .text, "disc"⟩), ("ratio", ⟨.plain .float, .ofMagnitude true 1⟩)]

theorem on_transfer_unmatched_measurement :
    measurement.Lasts ∧ (transfer [("size", .text "3")]).on (Target.record measurement) =
      (.ok (), .record measurement) := by
  have lasts : measurement.Lasts := by
    have expressible : DateTime.Expressible
        ⟨⟨⟨2017, 2, 25, by decide⟩, ⟨10, 30, 15, 250, by decide⟩⟩, ⟨19800, by decide⟩, by decide⟩ :=
      ⟨fun leap => absurd leap (by decide), rfl⟩
    have finite : (Binary64.ofMagnitude true 1).isFinite = true := by decide
    exact List.forall_mem_cons.2 ⟨expressible, List.forall_mem_cons.2
      ⟨trivial, List.forall_mem_singleton.2 finite⟩⟩
  exact ⟨lasts, (on_transfer_unmatched_iff (by decide) (by decide)).2 lasts⟩

/-- No value at all is unmatched, and still a transfer fails, or takes a second off an offset. -/
theorem on_transfer_nothing :
    (transfer []).on (Target.record [("size", ⟨.plain .float, .nan⟩)]) =
        (.error (.transfer (.unfillable (.wrongType .null .float))),
          .record [("size", ⟨.plain .float, .nan⟩)]) ∧
      (transfer []).on (Target.record [("at", ⟨.plain .dateTime,
          ⟨⟨⟨1970, 1, 1, by decide⟩, .midnight⟩, ⟨3601, by decide⟩, by decide⟩⟩)]) =
        (.ok (), .record [("at", ⟨.plain .dateTime,
          ⟨⟨⟨1970, 1, 1, by decide⟩, .midnight⟩, ⟨3600, by decide⟩, by decide⟩⟩)]) := by
  exact ⟨rfl, rfl⟩

end Record

end FormIntake
