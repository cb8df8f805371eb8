import FormIntake.Record.MemberType

namespace FormIntake

structure Member where
  type : MemberType
  value : type.Value

namespace Member

def toJson (m : Member) : Json := m.type.write m.value

def default (type : MemberType) : Member := ⟨type, type.default⟩

end Member

abbrev Record := Entries Member

abbrev Shape := Entries MemberType

namespace Record

def shape (r : Record) : Shape := r.mapValues (·.type)

def toJson (r : Record) : Entries Json := r.mapValues (·.toJson)

end Record

namespace Shape

def default (s : Shape) : Record := s.mapValues Member.default

def read : Shape → Entries Json → Except Mismatch Record
  | [], _ => .ok []
  | (name, type) :: rest, members => do
    let value ← Json.readMember members name type.read
    let others ← read rest members
    return (name, ⟨type, value⟩) :: others

end Shape

inductive Target
  | record (members : Record)
  | single (value : Member)

namespace Target

def toJson : Target → Json
  | record members => .object members.toJson
  | single value => value.toJson

def readLike : Target → Json → Except Mismatch Target
  | record r, .object members => (r.shape.read members).map record
  | record _, value => value.wrongType .map
  | single m, value => (m.type.read value).map fun value => single ⟨m.type, value⟩

/-- A JSON value as a target; the members of an object hold any JSON. -/
def ofJson : Json → Target
  | .object members => .record (Entries.mapValues (Member.mk .json) members)
  | value => .single ⟨.json, value⟩

end Target

end FormIntake
