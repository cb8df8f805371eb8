import FormIntake.Field.Kind

namespace FormIntake

inductive FieldType
  | builtin (kind : Kind)
  | custom (convert : String → Option FormValue) (validator : Option Validator)
  /-- A type that the caller makes in full: it may look at the settings, and may have limits like
  those of the built-in types. -/
  | supplied (convert : String → Settings → Option FormValue) (validator : Option Validator)
    (limited : Bool)

namespace FieldType

def convert (t : FieldType) (raw : String) (s : Settings) : Option FormValue :=
  match t with
  | builtin kind => kind.convert raw s
  | custom convert _ => convert raw
  | supplied convert _ _ => convert raw s

def validator : FieldType → Option Validator
  | builtin kind => kind.validator
  | custom _ validator | supplied _ validator _ => validator

def isCustom : FieldType → Bool
  | builtin _ => false
  | custom .. => true
  | supplied _ _ limited => !limited

end FieldType

structure Registry where
  types : Entries FieldType

namespace Registry

def empty : Registry := ⟨[]⟩

def insert (r : Registry) (name : String) (t : FieldType) : Registry := ⟨r.types.insert name t⟩

def builtin : Registry := Kind.all.foldl (fun r k => r.insert k.name (.builtin k)) empty

def register (r : Registry) (name : String) (convert : String → Option FormValue)
    (validator : Option Validator) : Registry :=
  r.insert name (.custom convert validator)

def lookup (r : Registry) (name : String) : Option FieldType := r.types.get? name

def contains (r : Registry) (name : String) : Bool := r.types.contains name

def names (r : Registry) : List String := r.types.keys

def describe (r : Registry) : String :=
  "TypeRegistry \x7b types: [" ++ String.intercalate ", " (r.names.map Text.quoted) ++ "] \x7d"

end Registry

end FormIntake
