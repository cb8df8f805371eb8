import FormIntake.Proofs.Calendar.Rfc3339
import FormIntake.Proofs.Number.Finite
import FormIntake.Proofs.Record.Reading

namespace FormIntake

theorem Json.asTexts_ofTexts (texts : List String) : (Json.ofTexts texts).asTexts = .ok texts := by
  simp only [Json.ofTexts, Json.asTexts]
  induction texts with
  | nil => rfl
  | cons s rest ih =>
    simp only [List.map_cons, List.mapM_cons, ih, Json.asText, bind, Except.bind, pure, Except.pure]

theorem Json.asInt_ofInt {width : IntWidth} (n : width.Value) :
    (Json.ofInt n).asInt width = .ok n := by
  have held : width.value? n.val = some n := dif_pos n.property
  simp only [Json.ofInt, Json.asInt, held]

theorem Json.ofFloat_of_isFinite {x : Binary64} (finite : x.isFinite = true) :
    Json.ofFloat x = .float x finite := dif_pos finite

theorem Json.ofFloat_of_not_isFinite {x : Binary64} (outside : x.isFinite = false) :
    Json.ofFloat x = .null := dif_neg (ne_true_of_eq_false outside)

theorem Json.isFinite_of_asFloat {json : Json} {x : Binary64} (found : json.asFloat = .ok x) :
    x.isFinite = true := by
  unfold Json.asFloat at found
  split at found
  · next finite => cases found; exact finite
  · next fits => cases found; exact Binary64.isFinite_ofInt fits
  · cases found

namespace PlainType

/-- Doubles have to be finite, and texts have to say all of a date-time. -/
def Lasts : (t : PlainType) → t.Value → Prop
  | float, x => x.isFinite = true
  | dateTime, time => time.Expressible
  | _, _ => True

theorem read_write {t : PlainType} {value : t.Value} (lasts : t.Lasts value) :
    t.read (t.write value) = .ok value := by
  cases t with
  | bool | text => rfl
  | int width => exact Json.asInt_ofInt value
  | float =>
    have finite : Binary64.isFinite value = true := lasts
    simp only [read, write, Json.ofFloat_of_isFinite finite, Json.asFloat]
  | texts => exact Json.asTexts_ofTexts value
  | dateTime => simp only [read, write, readDateTime, Rfc3339.read_writeZulu lasts]

theorem lasts_of_read {t : PlainType} {json : Json} {value : t.Value}
    (found : t.read json = .ok value) : t.Lasts value := by
  cases t with
  | float => exact Json.isFinite_of_asFloat found
  | dateTime =>
    simp only [read, readDateTime] at found
    split at found
    · split at found
      · next parsed => cases found; exact Rfc3339.expressible_of_read parsed
      · cases found
    · cases found
  | bool | int | text | texts => trivial

theorem lasts_default (t : PlainType) : t.Lasts t.default := by
  cases t with
  | float => exact Binary64.isFinite_zero
  | dateTime => exact DateTime.expressible_epoch
  | bool | int | text | texts => trivial

/-- Null stands for no value, so that a value must not be written as null. -/
theorem write_ne_null {t : PlainType} {value : t.Value} (lasts : t.Lasts value) :
    t.write value ≠ .null := by
  cases t with
  | float =>
    have finite : Binary64.isFinite value = true := lasts
    simp [write, Json.ofFloat_of_isFinite finite]
  | bool | int | text | texts | dateTime => rintro ⟨⟩

end PlainType

namespace MemberType

theorem read_optional {type : PlainType} {json : Json} (there : json ≠ .null) :
    (optional type).read json = (type.read json).map some := by
  cases json <;> first | rfl | exact absurd rfl there

def Lasts : (t : MemberType) → t.Value → Prop
  | plain type, value => type.Lasts value
  | optional type, value => ∀ v ∈ value, type.Lasts v
  | json, _ => True

theorem read_write {t : MemberType} {value : t.Value} (lasts : t.Lasts value) :
    t.read (t.write value) = .ok value := by
  cases t with
  | plain type => exact PlainType.read_write lasts
  | optional type =>
    cases value with
    | none => rfl
    | some value =>
      have inner : type.Lasts value := lasts value rfl
      rw [write, read_optional (PlainType.write_ne_null inner), PlainType.read_write inner]
      rfl
  | json => rfl

theorem lasts_of_read {t : MemberType} {json : Json} {value : t.Value}
    (found : t.read json = .ok value) : t.Lasts value := by
  cases t with
  | plain type => exact PlainType.lasts_of_read found
  | optional type =>
    by_cases null : json = .null
    · subst null
      cases found
      rintro v ⟨⟩
    · rw [read_optional null] at found
      obtain ⟨inner, read, rfl⟩ := Integer.eq_of_map_ok found
      rintro v ⟨⟩
      exact PlainType.lasts_of_read read
  | json => trivial

theorem lasts_default (t : MemberType) : t.Lasts t.default := by
  cases t with
  | plain type => exact PlainType.lasts_default type
  | optional type => rintro v ⟨⟩
  | json => trivial

end MemberType

/-- A member as it is at first: with nothing written to it, or read from JSON. -/
def Member.Initial (m : Member) : Prop :=
  m.value = m.type.default ∨ ∃ json, m.type.read json = .ok m.value

def Member.Lasts (m : Member) : Prop := m.type.Lasts m.value

theorem Member.Initial.lasts {m : Member} (initial : m.Initial) : m.Lasts := by
  rcases initial with unwritten | ⟨json, found⟩
  · unfold Member.Lasts
    rw [unwritten]
    exact m.type.lasts_default
  · exact MemberType.lasts_of_read found

theorem Member.Lasts.read_toJson {m : Member} (lasts : m.Lasts) :
    m.type.read m.toJson = .ok m.value := MemberType.read_write lasts

namespace Record

def Lasts (r : Record) : Prop := ∀ entry ∈ r, entry.2.Lasts

theorem Lasts.member {r : Record} (lasts : r.Lasts) {name : String} {m : Member}
    (found : r.get? name = some m) : m.Lasts := lasts _ (Entries.mem_of_get? found)

end Record

theorem Shape.lasts_of_read {s : Shape} {members : Entries Json} {r : Record}
    (found : s.read members = .ok r) : r.Lasts := by
  intro entry member
  obtain ⟨json, _, read⟩ := (Shape.read_eq_ok_iff.1 found).2 entry member
  exact MemberType.lasts_of_read read

end FormIntake
