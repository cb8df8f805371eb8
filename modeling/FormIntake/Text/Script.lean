import FormIntake.Text.CharSet
import FormIntake.Text.Script.Shared
import FormIntake.Text.Script.Table

namespace FormIntake.Text.Script

/-- The short names that are not the common ones. -/
def otherName : String → String
  | "qaac" => "copt"
  | "qaai" => "zinh"
  | name => name

def ofName? (name : String) : Option Script :=
  let name := otherName name
  all.find? fun s => s.shortName = name || s.name = name

def set (s : Script) : CharSet := .ofRanges s.ranges

def extendedSet (s : Script) : CharSet :=
  let own := s.set \ .ofRanges (shared.flatMap (·.ranges))
  own ∪ .ofRanges ((shared.filter fun g => g.shortNames.contains s.shortName).flatMap (·.ranges))

end FormIntake.Text.Script
