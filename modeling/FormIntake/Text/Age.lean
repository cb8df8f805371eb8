import FormIntake.Text.Age.Table
import FormIntake.Text.CharSet

namespace FormIntake.Text.Age

def names (a : Age) : List String :=
  [toString a.major ++ "." ++ toString a.minor, "v" ++ toString a.major ++ toString a.minor]

/-- The characters of the version of a name and of all versions before it. -/
def upTo? (name : String) : Option CharSet :=
  match all.span fun a => !a.names.contains name with
  | (_, []) => none
  | (before, last :: _) => some (.ofRanges ((before ++ [last]).flatMap (·.ranges)))

end FormIntake.Text.Age
