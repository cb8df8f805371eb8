import FormIntake.Field.Registry

namespace FormIntake

structure FieldSpec extends Field where
  validator : Option Validator
  fieldType : FieldType

/-- The name for a field: what is left of `name` without the white space around it, or the key. -/
def shownName (key : String) (name : Option String) : String :=
  match name.map Text.trim with
  | some name => if name = "" then key else name
  | none => key

structure SpecDraft where
  required : Bool
  key : String
  typeName : String
  limit : String := ""
  name : Option String := none
  validator : Option Validator := none

namespace SpecDraft

def requiring (key typeName : String) : SpecDraft := { required := true, key, typeName }

def optional (key typeName : String) : SpecDraft := { required := false, key, typeName }

/-- The limit of a field; a custom type takes care of its limit itself. -/
def readLimit (t : FieldType) (typeName expr : String) : Except FormError (Option Limit) :=
  if t.isCustom then .ok none else Limit.parse typeName expr

def build (d : SpecDraft) (r : Registry) : Except FormError FieldSpec :=
  let key := Text.trim d.key
  if key = "" then .error .emptyKey
  else
    match r.lookup d.typeName with
    | none => .error (.unknownType d.typeName)
    | some t => do
      let limit ← readLimit t d.typeName d.limit
      return {
        key
        typeName := d.typeName
        required := d.required
        limitExpr := d.limit
        name := shownName key d.name
        limit
        validator := d.validator.or t.validator
        fieldType := t }

end SpecDraft

namespace FieldSpec

def convert (spec : FieldSpec) (raw : String) (s : Settings) : Except ValidationError FormValue :=
  match spec.fieldType.convert raw s with
  | some value => .ok value
  | none =>
    .error (spec.complaint ("could not be converted to " ++ spec.typeName) "invalid")

/-- Runs the validator; a complaint about no field in particular is about this one. -/
def validate (spec : FieldSpec) (value : FormValue) : Except ValidationError Unit :=
  match spec.validator with
  | some validator =>
    (validator spec.toField value).mapError fun e => { e with field := e.field.or (some spec.key) }
  | none => .ok ()

def copy (spec : FieldSpec) (key : String) (name : Option String) : Except FormError FieldSpec :=
  let key := Text.trim key
  if key = "" then .error .emptyKey
  else .ok { spec with key, name := shownName key name }

def describe (spec : FieldSpec) : String :=
  let truth (b : Bool) := if b then "true" else "false"
  "FieldSpec \x7b key: " ++ Text.quoted spec.key ++ ", type_name: " ++ Text.quoted spec.typeName ++
    ", required: " ++ truth spec.required ++ ", limit_expr: " ++ Text.quoted spec.limitExpr ++
    ", name: " ++ Text.quoted spec.name ++ ", has_validator: " ++ truth spec.validator.isSome ++
    ", .. \x7d"

end FieldSpec

end FormIntake
