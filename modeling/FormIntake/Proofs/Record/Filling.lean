import FormIntake.Proofs.Record.Lasting
import FormIntake.Proofs.Record.Resolution

namespace FormIntake

theorem on_transfer_of_error {τ : Type} [Fillable τ] {values : Cleaned} {target : τ}
    {fault : FormError} (failed : ((transfer values).on target).1 = .error fault) :
    (∃ found, fault = .transfer found) ∧ ((transfer values).on target).2 = target := by
  rw [on_transfer] at failed ⊢
  split at failed
  · split at failed
    · cases failed
    · cases failed; exact ⟨⟨_, rfl⟩, rfl⟩
  · cases failed; exact ⟨⟨_, rfl⟩, rfl⟩

namespace Record

variable {r filled : Record} {values : Cleaned}

/-- The members that `values` do not go to outlast being written and read. -/
def KeptLast (r : Record) (values : Cleaned) : Prop :=
  ∀ name m, r.get? name = some m → (∀ value, ¬ Wins r.keys values name value) → m.Lasts

theorem Lasts.keptLast (lasts : r.Lasts) (values : Cleaned) : r.KeptLast values :=
  fun _ _ member _ => lasts.member member

/-- `filled` is what `values` make of `r`. -/
structure FilledBy (r : Record) (values : Cleaned) (filled : Record) : Prop where
  sameShape : filled.shape = r.shape
  lasts : filled.Lasts
  written : ∀ name m, r.get? name = some m → ∀ value, Wins r.keys values name value →
    ∃ n, filled.get? name = some n ∧ n.type = m.type ∧ n.type.read value.toJson = .ok n.value
  kept : ∀ name m, r.get? name = some m → (∀ value, ¬ Wins r.keys values name value) →
    filled.get? name = some m

theorem get?_overlay (ordered : r.Ordered) (sorted : values.Ordered) {name : String} {m : Member}
    (found : r.get? name = some m) :
    (∀ value, Wins r.keys values name value →
      (Members.overlay r.toJson values).get? name = some value.toJson) ∧
    ((∀ value, ¬ Wins r.keys values name value) →
      (Members.overlay r.toJson values).get? name = some m.toJson) := by
  have overlaid := Members.overlaid_overlay (Entries.ordered_mapValues Member.toJson ordered) sorted
  have names : Entries.keys (Entries.mapValues Member.toJson r) = r.keys := keys_toJson r
  constructor
  · intro value wins
    exact overlaid.won name value (names ▸ wins)
  · intro unwritten
    have kept := overlaid.kept name fun value => names ▸ unwritten value
    have old := get?_toJson r name
    rw [found] at old
    exact kept.trans old

theorem filledBy_of_read (ordered : r.Ordered) (sorted : values.Ordered) (lasts : r.KeptLast values)
    (found : r.shape.read (Members.overlay r.toJson values) = .ok filled) :
    FilledBy r values filled := by
  have sameShape := (Shape.read_eq_ok_iff.1 found).1
  refine ⟨sameShape, Shape.lasts_of_read found, ?_, ?_⟩
  · intro name m member value wins
    obtain ⟨read, here⟩ := exists_member_of_shape sameShape member
    obtain ⟨json, given, reads⟩ := Shape.get?_read found here
    rw [(get?_overlay ordered sorted member).1 value wins] at given
    cases given
    exact ⟨_, here, rfl, reads⟩
  · intro name m member unwritten
    obtain ⟨read, here⟩ := exists_member_of_shape sameShape member
    obtain ⟨json, given, reads⟩ := Shape.get?_read found here
    rw [(get?_overlay ordered sorted member).2 unwritten] at given
    cases given
    rw [(lasts name m member unwritten).read_toJson] at reads
    cases reads
    exact here

theorem exists_filledBy (ordered : r.Ordered) (sorted : values.Ordered) (lasts : r.KeptLast values)
    (readable : ∀ name m, r.get? name = some m → ∀ value, Wins r.keys values name value →
      ∃ read, m.type.read value.toJson = .ok read) :
    ∃ filled, (transfer values).on (Target.record r) = (.ok (), .record filled) ∧
      FilledBy r values filled := by
  have all : ∀ entry ∈ r.shape, ∃ json value,
      (Members.overlay r.toJson values).get? entry.1 = some json ∧
      entry.2.read json = .ok value := by
    intro entry inShape
    obtain ⟨⟨name, m⟩, inRecord, rfl⟩ := List.mem_map.1 inShape
    have member := Entries.get?_of_mem ordered inRecord
    have holds := get?_overlay ordered sorted member
    by_cases won : ∃ value, Wins r.keys values name value
    · obtain ⟨value, wins⟩ := won
      obtain ⟨read, reads⟩ := readable name m member value wins
      exact ⟨_, read, holds.1 value wins, reads⟩
    · have unwritten : ∀ value, ¬ Wins r.keys values name value :=
        fun value wins => won ⟨value, wins⟩
      exact ⟨_, m.value, holds.2 unwritten, (lasts name m member unwritten).read_toJson⟩
  obtain ⟨filled, found⟩ := Shape.exists_read all
  refine ⟨filled, ?_, filledBy_of_read ordered sorted lasts found⟩
  rw [Target.on_transfer_record, found]

theorem filledBy_of_on_transfer (ordered : r.Ordered) (sorted : values.Ordered)
    (lasts : r.KeptLast values)
    (done : ((transfer values).on (Target.record r)).1 = .ok ()) :
    ∃ filled, ((transfer values).on (Target.record r)).2 = .record filled ∧
      FilledBy r values filled := by
  rw [Target.on_transfer_record] at done ⊢
  cases found : r.shape.read (Members.overlay r.toJson values) with
  | error fault => rw [found] at done; cases done
  | ok filled => exact ⟨filled, rfl, filledBy_of_read ordered sorted lasts found⟩

end Record

end FormIntake
