import FormIntake.Field.Limit
import FormIntake.Field.Value

namespace FormIntake

structure Field where
  key : String
  typeName : String
  required : Bool
  limitExpr : String
  name : String
  /-- The limit that `limitExpr` writes, where the type is one that has limits. -/
  limit : Option Limit
  deriving DecidableEq

abbrev Validator := Field → FormValue → Except ValidationError Unit

def Field.complaint (f : Field) (suffix code : String) : ValidationError :=
  { message := f.name ++ " " ++ suffix, code, field := some f.key }

end FormIntake
