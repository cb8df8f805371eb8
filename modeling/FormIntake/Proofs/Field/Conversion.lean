import FormIntake.Field.Kind
import FormIntake.Proofs.Number.Integer
import FormIntake.Proofs.Record.Lasting

namespace FormIntake

def FormValue.asMember : FormValue → Member
  | bool b => ⟨.plain .bool, b⟩
  | int n => ⟨.plain (.int .i32), n⟩
  | int64 n => ⟨.plain (.int .i64), n⟩
  | float x => ⟨.plain .float, x⟩
  | text s => ⟨.plain .text, s⟩
  | dateTime t => ⟨.plain .dateTime, t⟩
  | json j => ⟨.json, j⟩

theorem FormValue.toJson_asMember (value : FormValue) : value.asMember.toJson = value.toJson := by
  cases value <;> rfl

theorem FormValue.read_toJson {value : FormValue} (lasts : value.asMember.Lasts) :
    value.asMember.type.read value.toJson = .ok value.asMember.value := by
  rw [← value.toJson_asMember]
  exact lasts.read_toJson

namespace Kind

def memberType : Kind → MemberType
  | bool => .plain .bool
  | int => .plain (.int .i32)
  | int64 => .plain (.int .i64)
  | float => .plain .float
  | string => .plain .text
  | date | dateTime | dateFlex => .plain .dateTime

theorem readInt_eq_some_iff {width : IntWidth} (signed : width.least ≠ 0) {raw : String}
    (present : raw ≠ "") {n : width.Value} :
    readInt width raw = some n ↔ Integer.Writes raw.toList n.val := by
  rw [← and_iff_left (a := Integer.Writes raw.toList n.val) n.property,
    ← Integer.read_eq_ok_iff signed, readInt, if_neg present]
  split
  · next m found =>
    constructor
    · rintro ⟨⟩
      exact found
    · intro read
      exact congrArg some (Subtype.ext (Except.ok.inj (found.symm.trans read)))
  · next fault found => simp [found]

theorem readFloat_eq_some_iff {raw : String} (present : raw ≠ "") {x : Binary64} :
    readFloat raw = some x ↔ Decimal.read raw.toList = some x ∧ x.isFinite = true := by
  rw [readFloat, if_neg present, Option.filter_eq_some_iff]

theorem isFinite_of_readFloat {raw : String} {x : Binary64} (found : readFloat raw = some x) :
    x.isFinite = true := by
  unfold readFloat at found
  split at found
  · cases found; exact Binary64.isFinite_zero
  · exact (Option.filter_eq_some_iff.1 found).2

theorem of_readDate {layouts : List String} {offset : UtcOffset} {raw : String} {time : DateTime}
    (found : readDate layouts offset raw = some time) :
    time.localTime.time.LeapAtEnd ∧ time.offset = offset := by
  obtain ⟨date, _, found⟩ := Option.bind_eq_some_iff.1 found
  obtain ⟨sameTime, sameOffset⟩ := DateTime.of_at? found
  refine ⟨?_, sameOffset⟩
  rw [sameTime]
  exact TimeOfDay.leapAtEnd_midnight

theorem of_readDateTime {layouts : List String} {offset : UtcOffset} {raw : String}
    {time : DateTime} (found : readDateTime layouts offset raw = some time) :
    time.localTime.time.LeapAtEnd ∧ time.offset = offset := by
  obtain ⟨localTime, first, found⟩ := Option.bind_eq_some_iff.1 found
  obtain ⟨layout, _, reads⟩ := List.exists_of_findSome?_eq_some first
  obtain ⟨sameTime, sameOffset⟩ := DateTime.of_at? found
  refine ⟨?_, sameOffset⟩
  rw [sameTime]
  exact Layout.leapAtEnd_readDateTime reads

theorem expressible_of_inZone {s : Settings} {raw : String} {read : UtcOffset → Option DateTime}
    {time : DateTime} (reads : ∀ offset time, read offset = some time →
      time.localTime.time.LeapAtEnd ∧ time.offset = offset)
    (found : inZone s raw read = some time) : time.Expressible := by
  unfold inZone at found
  split at found
  · cases found; exact DateTime.expressible_zero
  · obtain ⟨offset, zone, found⟩ := Option.bind_eq_some_iff.1 found
    obtain ⟨leapAtEnd, sameOffset⟩ := reads offset time found
    refine ⟨leapAtEnd, ?_⟩
    rw [sameOffset]
    unfold Settings.offset at zone
    split at zone
    · next accepted => cases zone; exact UtcOffset.wholeMinutes_of_ofZone? accepted
    · cases zone

theorem asMember_of_convert {k : Kind} {raw : String} {s : Settings} {value : FormValue}
    (found : k.convert raw s = some value) :
    value.asMember.type = k.memberType ∧ value.asMember.Lasts := by
  cases k with
  | string => cases found; exact ⟨rfl, trivial⟩
  | bool | int | int64 =>
    obtain ⟨x, _, rfl⟩ := Option.map_eq_some_iff.1 found
    exact ⟨rfl, trivial⟩
  | float =>
    obtain ⟨x, read, rfl⟩ := Option.map_eq_some_iff.1 found
    exact ⟨rfl, isFinite_of_readFloat read⟩
  | date =>
    obtain ⟨time, read, rfl⟩ := Option.map_eq_some_iff.1 found
    exact ⟨rfl, expressible_of_inZone (fun _ _ => of_readDate) read⟩
  | dateTime =>
    obtain ⟨time, read, rfl⟩ := Option.map_eq_some_iff.1 found
    exact ⟨rfl, expressible_of_inZone (fun _ _ => of_readDateTime) read⟩
  | dateFlex =>
    obtain ⟨time, read, rfl⟩ := Option.map_eq_some_iff.1 found
    refine ⟨rfl, expressible_of_inZone (fun offset time either => ?_) read⟩
    rcases Option.or_eq_some_iff.1 either with asDate | ⟨_, asDateTime⟩
    · exact of_readDate asDate
    · exact of_readDateTime asDateTime

end Kind

end FormIntake
