import FormIntake.Error
import FormIntake.Field.Value
import FormIntake.Record.Basic
import FormIntake.Text.LowerCase

namespace FormIntake

abbrev Cleaned := Entries FormValue

def sameFolded (a b : String) : Bool := Text.lowerCase a = Text.lowerCase b

namespace Members

def foldedName? (members : Entries Json) (key : String) : Option String :=
  members.keys.find? (sameFolded key)

def exactWrites (members : Entries Json) (values : Cleaned) : List (String × FormValue) :=
  values.filter fun (key, _) => members.contains key

def foldedWrites (members : Entries Json) (values : Cleaned) : List (String × FormValue) :=
  (values.filter fun (key, _) => !members.contains key).filterMap fun (key, value) =>
    (foldedName? members key).map (·, value)

/-- The members with `values` written over them. Exact keys write last, so that they win. -/
def overlay (members : Entries Json) (values : Cleaned) : Entries Json :=
  (foldedWrites members values ++ exactWrites members values).foldl
    (fun members (name, value) => members.insert name value.toJson) members

end Members

class Fillable (τ : Type) where
  toJson : τ → Json
  readLike (like : τ) : Json → Except Mismatch τ

instance : Fillable Target := ⟨Target.toJson, Target.readLike⟩

/-- Work on a target. It may fail, and a failure undoes nothing that has been written before. -/
abbrev Filling (τ α : Type) := ExceptT FormError (StateM τ) α

variable {τ : Type}

def Filling.on {α : Type} (work : Filling τ α) (target : τ) : Except FormError α × τ :=
  Id.run (work.run.run target)

variable [Fillable τ]

/-- Writes `values` into the target. Only one that has been read back whole takes its place. -/
def transfer (values : Cleaned) : Filling τ Unit := do
  let target ← get
  match Fillable.toJson target with
  | .object members =>
    match Fillable.readLike target (.object (Members.overlay members values)) with
    | .ok filled => set filled
    | .error found => throw (.transfer (.unfillable found))
  | _ => throw (.transfer .notARecord)

theorem on_transfer (values : Cleaned) (target : τ) :
    (transfer values).on target =
      match Fillable.toJson target with
      | .object members =>
        match Fillable.readLike target (.object (Members.overlay members values)) with
        | .ok filled => (.ok (), filled)
        | .error found => (.error (.transfer (.unfillable found)), target)
      | _ => (.error (.transfer .notARecord), target) := by
  change Filling.on (match Fillable.toJson target with
    | .object members =>
      match Fillable.readLike target (.object (Members.overlay members values)) with
      | .ok filled => set filled
      | .error found => throw (.transfer (.unfillable found))
    | _ => throw (.transfer .notARecord)) target = _
  cases Fillable.toJson target with
  | object members =>
    dsimp only
    cases Fillable.readLike target (.object (Members.overlay members values)) <;> rfl
  | null | bool | int | float | text | array => rfl

theorem on_transfer_of_object {target : τ} {members : Entries Json}
    (object : Fillable.toJson target = .object members) (values : Cleaned) :
    (transfer values).on target =
      match Fillable.readLike target (.object (Members.overlay members values)) with
      | .ok filled => (.ok (), filled)
      | .error found => (.error (.transfer (.unfillable found)), target) := by
  rw [on_transfer, object]

theorem Target.on_transfer_record (r : Record) (values : Cleaned) :
    (transfer values).on (record r) =
      match r.shape.read (Members.overlay r.toJson values) with
      | .ok filled => (.ok (), record filled)
      | .error found => (.error (.transfer (.unfillable found)), record r) := by
  have object : Fillable.toJson (record r) = .object r.toJson := rfl
  have reads : Fillable.readLike (record r) (.object (Members.overlay r.toJson values)) =
      (r.shape.read (Members.overlay r.toJson values)).map record := rfl
  rw [on_transfer_of_object object, reads]
  cases r.shape.read (Members.overlay r.toJson values) <;> rfl

end FormIntake
