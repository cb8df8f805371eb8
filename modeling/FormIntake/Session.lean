import FormIntake.Decoder

namespace FormIntake

inductive Call : Type 1
  | decode {σ : Type} [FormSource σ] (d : Decoder) (source : σ) (specs : List FieldSpec)
  | transfer (values : Cleaned) (ordered : values.Ordered)

namespace Call

def values? : Call → Except ValidationErrors Cleaned
  | decode d source specs => d.cleanFields source specs
  | transfer values _ => .ok values

variable {τ : Type} [Fillable τ]

def perform : Call → Filling τ Unit
  | decode d source specs => d.decode source specs
  | transfer values _ => FormIntake.transfer values

def after (call : Call) (target : τ) : τ := (call.perform.on target).2

def afterAll (calls : List Call) (target : τ) : τ :=
  calls.foldl (fun target call => call.after target) target

end Call

end FormIntake
