import FormIntake.Proofs.Record.Reading
import FormIntake.Proofs.Record.Winner

namespace FormIntake

namespace Members

variable {old : Entries Json} {values : Cleaned} {key name : String} {value : FormValue}

theorem foldedName?_eq_some_iff (ordered : old.Ordered) (absent : key ∉ old.keys) :
    foldedName? old key = some name ↔ FoldsTo old.keys key name := by
  have sorted := Entries.ordered_iff_keys.1 ordered
  rw [foldedName?, List.find?_eq_some_iff_append]
  constructor
  · rintro ⟨folds, before, after, split, earlier⟩
    refine ⟨absent, by simp [split], by simpa [sameFolded] using folds, ?_⟩
    intro other member same
    rw [split] at member sorted
    rcases List.mem_append.1 member with inBefore | later
    · have differs := earlier other inBefore
      simp [sameFolded, same] at differs
    · rcases List.mem_cons.1 later with rfl | inAfter
      · exact String.le_refl _
      · have tail := (List.pairwise_append.1 sorted).2.1
        exact String.lt_asymm ((List.pairwise_cons.1 tail).1 other inAfter)
  · intro folds
    obtain ⟨before, after, split⟩ := List.append_of_mem folds.member
    refine ⟨by simpa [sameFolded] using folds.2.2.1, before, after, split, ?_⟩
    intro other inBefore
    rw [split] at sorted
    have less : other < name :=
      (List.pairwise_append.1 sorted).2.2 other inBefore name List.mem_cons_self
    simp only [sameFolded, Bool.not_eq_true', decide_eq_false_iff_not]
    intro same
    exact folds.2.2.2 other (by simp [split, inBefore]) same less

theorem exactWrites_append (a b : Cleaned) :
    exactWrites old (a ++ b) = exactWrites old a ++ exactWrites old b := by
  simp [exactWrites]

theorem foldedWrites_append (a b : Cleaned) :
    foldedWrites old (a ++ b) = foldedWrites old a ++ foldedWrites old b := by
  simp [foldedWrites]

theorem exactWrites_cons (member : name ∈ old.keys) (after : Cleaned) :
    exactWrites old ((name, value) :: after) = (name, value) :: exactWrites old after := by
  simp [exactWrites, Entries.contains_iff.2 member]

theorem foldedWrites_cons (ordered : old.Ordered) (folds : FoldsTo old.keys key name)
    (after : Cleaned) :
    foldedWrites old ((key, value) :: after) = (name, value) :: foldedWrites old after := by
  have absent : old.contains key = false := by
    rw [Bool.eq_false_iff, ne_eq, Entries.contains_iff]
    exact folds.not_mem
  simp [foldedWrites, absent, (foldedName?_eq_some_iff ordered folds.not_mem).2 folds]

theorem mem_exactWrites :
    name ∈ (exactWrites old values).map Prod.fst ↔ name ∈ old.keys ∧ name ∈ values.keys := by
  simp [exactWrites, Entries.contains_iff, Entries.keys, and_comm]

theorem mem_foldedWrites (ordered : old.Ordered) :
    name ∈ (foldedWrites old values).map Prod.fst ↔
      ∃ key ∈ values.keys, FoldsTo old.keys key name := by
  constructor
  · intro member
    simp only [foldedWrites, List.mem_map, List.mem_filterMap, List.mem_filter] at member
    obtain ⟨_, ⟨⟨key, value⟩, ⟨given, absent⟩, written⟩, rfl⟩ := member
    simp only [Option.map_eq_some_iff] at written
    obtain ⟨first, folded, rfl⟩ := written
    have outside : key ∉ old.keys := fun inside => by
      simp [Entries.contains_iff.2 inside] at absent
    exact ⟨key, List.mem_map_of_mem given, (foldedName?_eq_some_iff ordered outside).1 folded⟩
  · rintro ⟨key, inKeys, folds⟩
    obtain ⟨⟨key, value⟩, given, rfl⟩ := List.mem_map.1 inKeys
    obtain ⟨before, after, rfl⟩ := List.append_of_mem given
    rw [foldedWrites_append, foldedWrites_cons ordered folds]
    simp

theorem keys_overlay (ordered : old.Ordered) (values : Cleaned) :
    (overlay old values).keys = old.keys := by
  refine Entries.keys_foldl_insert_of_subset FormValue.toJson ordered ?_
  intro name member
  rw [List.map_append, List.mem_append, mem_foldedWrites ordered, mem_exactWrites] at member
  rcases member with ⟨key, _, folds⟩ | ⟨inside, _⟩
  · exact folds.member
  · exact inside

theorem get?_overlay_of_wins (ordered : old.Ordered) (sorted : values.Ordered)
    (wins : Wins old.keys values name value) :
    (overlay old values).get? name = some value.toJson := by
  cases wins with
  | exact member given =>
    obtain ⟨before, after, rfl⟩ := List.append_of_mem (Entries.mem_of_get? given)
    have above := (List.pairwise_cons.1 (List.pairwise_append.1 sorted).2.1).1
    have last : name ∉ (exactWrites old after).map Prod.fst := by
      rw [mem_exactWrites]
      rintro ⟨_, again⟩
      obtain ⟨entry, inAfter, same⟩ := List.mem_map.1 again
      exact String.lt_irrefl name (same ▸ above entry inAfter)
    rw [overlay, exactWrites_append, exactWrites_cons member, ← List.append_assoc]
    exact Entries.get?_foldl_insert_of_last FormValue.toJson _ value last _
  | @folded key _ absent folds greatest given =>
    obtain ⟨before, after, rfl⟩ := List.append_of_mem (Entries.mem_of_get? given)
    have above := (List.pairwise_cons.1 (List.pairwise_append.1 sorted).2.1).1
    have last : name ∉ (foldedWrites old after ++
        exactWrites old (before ++ (key, value) :: after)).map Prod.fst := by
      rw [List.map_append, List.mem_append, mem_foldedWrites ordered, mem_exactWrites]
      rintro (⟨other, again, otherFolds⟩ | ⟨_, own⟩)
      · obtain ⟨entry, inAfter, rfl⟩ := List.mem_map.1 again
        have inKeys : entry.1 ∈ Entries.keys (before ++ (key, value) :: after) := by
          simp only [Entries.keys, List.map_append, List.map_cons, List.mem_append, List.mem_cons]
          exact .inr (.inr again)
        exact greatest entry.1 inKeys otherFolds (above entry inAfter)
      · exact absent own
    rw [overlay, foldedWrites_append, foldedWrites_cons ordered folds, List.append_assoc,
      List.cons_append]
    exact Entries.get?_foldl_insert_of_last FormValue.toJson _ value last _

theorem get?_overlay_of_no_winner (ordered : old.Ordered)
    (unwritten : ∀ value, ¬ Wins old.keys values name value) :
    (overlay old values).get? name = old.get? name := by
  refine Entries.get?_foldl_insert_of_absent FormValue.toJson ?_ _
  rw [List.map_append, List.mem_append, mem_foldedWrites ordered, mem_exactWrites]
  have unresolved : ¬ ∃ key ∈ values.keys, Resolves old.keys key name := fun resolved =>
    (exists_wins_iff.2 resolved).elim unwritten
  rintro (⟨key, inKeys, folds⟩ | ⟨member, own⟩)
  · exact unresolved ⟨key, inKeys, .inr folds⟩
  · exact unresolved ⟨name, own, .inl ⟨member, rfl⟩⟩

/-- `members` hold the winning values, and otherwise what `old` holds. -/
structure Overlaid (old : Entries Json) (values : Cleaned) (members : Entries Json) : Prop where
  names : members.keys = old.keys
  won : ∀ name value, Wins old.keys values name value → members.get? name = some value.toJson
  kept : ∀ name, (∀ value, ¬ Wins old.keys values name value) → members.get? name = old.get? name

theorem overlaid_overlay (ordered : old.Ordered) (sorted : values.Ordered) :
    Overlaid old values (overlay old values) where
  names := keys_overlay ordered values
  won _ _ wins := get?_overlay_of_wins ordered sorted wins
  kept _ unwritten := get?_overlay_of_no_winner ordered unwritten

theorem Overlaid.unique {a b : Entries Json} (ordered : old.Ordered)
    (left : Overlaid old values a) (right : Overlaid old values b) : a = b := by
  have sorted := Entries.ordered_iff_keys.1 ordered
  refine Entries.ext_get? (Entries.ordered_iff_keys.2 (left.names ▸ sorted))
    (Entries.ordered_iff_keys.2 (right.names ▸ sorted)) fun name => ?_
  by_cases won : ∃ value, Wins old.keys values name value
  · obtain ⟨value, wins⟩ := won
    rw [left.won name value wins, right.won name value wins]
  · have unwritten : ∀ value, ¬ Wins old.keys values name value :=
      fun value wins => won ⟨value, wins⟩
    rw [left.kept name unwritten, right.kept name unwritten]

theorem overlay_congr {other : Cleaned} (ordered : old.Ordered) (sorted : values.Ordered)
    (otherSorted : other.Ordered)
    (same : ∀ name value, Wins old.keys other name value ↔ Wins old.keys values name value) :
    overlay old other = overlay old values := by
  have overlaid := overlaid_overlay ordered otherSorted
  refine Overlaid.unique ordered ⟨overlaid.names, ?_, ?_⟩ (overlaid_overlay ordered sorted)
  · intro name value wins
    exact overlaid.won name value ((same name value).2 wins)
  · intro name unwritten
    exact overlaid.kept name fun value wins => unwritten value ((same name value).1 wins)

end Members

namespace Target

theorem shape_of_on_transfer {r : Record} {values : Cleaned} {after : Target}
    (filled : (transfer values).on (record r) = (.ok (), after)) :
    ∃ filled, after = record filled ∧ filled.shape = r.shape := by
  rw [on_transfer_record] at filled
  cases read : r.shape.read (Members.overlay r.toJson values) with
  | error found => rw [read] at filled; cases filled
  | ok result =>
    rw [read] at filled
    cases filled
    exact ⟨result, rfl, (Shape.read_eq_ok_iff.1 read).1⟩

end Target

/-- A transfer reads the target back from the winning values, and fails just where this does. -/
theorem transfer_reads_winners {τ : Type} [Fillable τ] (target : τ) (old : Entries Json)
    (object : Fillable.toJson target = .object old) (ordered : old.Ordered) (values : Cleaned)
    (sorted : values.Ordered) :
    (∃ members, Members.Overlaid old values members) ∧
    (∀ members, Members.Overlaid old values members →
      (∀ found, Fillable.readLike target (.object members) = .error found →
        (transfer values).on target = (.error (.transfer (.unfillable found)), target)) ∧
      (∀ filled, Fillable.readLike target (.object members) = .ok filled →
        (transfer values).on target = (.ok (), filled))) ∧
    (∀ key ∈ old.keys, ∀ value name, name ≠ key → ∀ other,
      Wins old.keys (values.insert key value) name other ↔ Wins old.keys values name other) ∧
    (∀ key value, (∀ name, ¬ Resolves old.keys key name ∨ Loses old.keys values key name) →
      (transfer (values.insert key value)).on target = (transfer values).on target) ∧
    (∀ (r : Record) (after : Target), (transfer values).on (.record r) = (.ok (), after) →
      ∃ filled, after = .record filled ∧ filled.shape = r.shape) := by
  have overlaid := Members.overlaid_overlay ordered sorted
  refine ⟨⟨_, overlaid⟩, ?_, ?_, ?_, fun r after => Target.shape_of_on_transfer⟩
  · intro members other
    have same : Members.overlay old values = members :=
      Members.Overlaid.unique ordered overlaid other
    constructor
    · intro found failed
      rw [on_transfer_of_object object, same, failed]
    · intro filled read
      rw [on_transfer_of_object object, same, read]
  · intro key member value name differs other
    refine wins_insert_iff (.inl ?_) value other
    rintro (⟨_, rfl⟩ | folds)
    · exact differs rfl
    · exact folds.not_mem member
  · intro key value idle
    have same : Members.overlay old (values.insert key value) = Members.overlay old values :=
      Members.overlay_congr ordered sorted (Entries.ordered_insert sorted key value)
        fun name other => wins_insert_iff (idle name) value other
    rw [on_transfer_of_object object, on_transfer_of_object object, same]

theorem transfer_greatest_folded_key :
    (transfer [("FOO", .text "upper"), ("Foo", .text "title")]).on
        (Target.record [("foo", ⟨.plain .text, "old"⟩)]) =
      (.ok (), .record [("foo", ⟨.plain .text, "title"⟩)]) := by
  obtain ⟨⟨members, overlaid⟩, reads, _⟩ :=
    transfer_reads_winners (Target.record [("foo", ⟨.plain .text, "old"⟩)]) [("foo", .text "old")]
      rfl (by decide) [("FOO", .text "upper"), ("Foo", .text "title")] (by decide)
  have won := overlaid.won "foo" (.text "title")
    (.folded (by decide) (by decide : FoldsTo ["foo"] "Foo" "foo") (by decide) rfl)
  have read : Shape.read [("foo", .plain .text)] members = .ok [("foo", ⟨.plain .text, "title"⟩)] :=
    Shape.read_eq_ok_iff.2 ⟨rfl, by simp [won]; rfl⟩
  exact (reads members overlaid).2 _ (congrArg (Except.map Target.record) read)

end FormIntake
