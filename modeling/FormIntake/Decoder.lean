import FormIntake.Field.Spec
import FormIntake.Query
import FormIntake.Record.Transfer
import Std.Data.HashMap

namespace FormIntake

class FormSource (σ : Type) where
  lookup? : σ → String → Option String

/-- The raw value for a key. One that is absent reads as the empty text. -/
def formValue {σ : Type} [FormSource σ] (source : σ) (key : String) : String :=
  (FormSource.lookup? source key).getD ""

instance : FormSource (Entries String) := ⟨Entries.get?⟩

instance : FormSource (Std.HashMap String String) := ⟨fun values key => values[key]?⟩

instance : FormSource Query := ⟨Query.get?⟩

structure Decoder where
  settings : Settings
  usable : settings.check = .ok ()
  deriving DecidableEq

namespace Decoder

def ofSettings (s : Settings) : Except FormError Decoder :=
  match usable : s.check with
  | .ok () => .ok ⟨s, usable⟩
  | .error fault => .error (.configuration fault)

def standard : Decoder := ⟨.standard, Settings.check_standard⟩

variable {σ : Type} [FormSource σ]

def rawValue (d : Decoder) (source : σ) (spec : FieldSpec) : String :=
  let raw := formValue source spec.key
  if d.settings.trimWhitespace then Text.trim raw else raw

def clean (d : Decoder) (source : σ) (spec : FieldSpec) : Except ValidationError FormValue :=
  let raw := d.rawValue source spec
  if raw = "" ∧ spec.required then .error (spec.complaint "is required" "required")
  else do
    let value ← spec.convert raw d.settings
    spec.validate value
    return value

structure Pass where
  errors : ValidationErrors
  values : Cleaned

def Pass.add (pass : Pass) (spec : FieldSpec) : Except ValidationError FormValue → Pass
  | .ok value => { pass with values := pass.values.insert spec.key value }
  | .error e => { pass with errors := pass.errors.push e }

def cleanFields (d : Decoder) (source : σ) (specs : List FieldSpec) :
    Except ValidationErrors Cleaned :=
  let pass := specs.foldl (fun pass spec => Pass.add pass spec (d.clean source spec)) ⟨.empty, []⟩
  if pass.errors.isEmpty then .ok pass.values else .error pass.errors

def decode {τ : Type} [Fillable τ] (d : Decoder) (source : σ) (specs : List FieldSpec) :
    Filling τ Unit := do
  match d.cleanFields source specs with
  | .ok values => transfer values
  | .error errors => throw (.validation errors)

theorem on_decode {τ : Type} [Fillable τ] (d : Decoder) (source : σ) (specs : List FieldSpec)
    (target : τ) :
    (d.decode source specs).on target =
      match d.cleanFields source specs with
      | .ok values => (transfer values).on target
      | .error errors => (.error (.validation errors), target) := by
  unfold decode
  cases d.cleanFields source specs <;> rfl

end Decoder

end FormIntake
