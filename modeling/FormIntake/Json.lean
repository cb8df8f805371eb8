import FormIntake.Entries
import FormIntake.Number.Binary64
import FormIntake.Number.Integer

namespace FormIntake

inductive Json
  | null
  | bool (value : Bool)
  | int (value : Int) (fits : -2 ^ 63 ≤ value ∧ value < 2 ^ 64)
  | float (value : Binary64) (finite : value.isFinite = true)
  | text (value : String)
  | array (items : List Json)
  | object (members : List (String × Json))

namespace Json

def int? (n : Int) : Option Json :=
  if fits : -2 ^ 63 ≤ n ∧ n < 2 ^ 64 then some (.int n fits) else none

def ofInt {w : IntWidth} (n : w.Value) : Json := .int n.val (w.within_of_holds n.property)

/-- A double as a JSON number; one that is not finite has none and becomes null. -/
def ofFloat (x : Binary64) : Json :=
  if finite : x.isFinite = true then .float x finite else .null

def ofTexts (texts : List String) : Json := .array (texts.map .text)

def ofMembers (members : List (String × Json)) : Json := .object (Entries.ofList members)

mutual

/-- Lays `overlay` onto `base`: objects are joined member by member, and anything else in `overlay`
stands in place of what was there. -/
def merge (base : Json) : Json → Json
  | .object overlay =>
    match base with
    | .object members => .object (mergeMembers members overlay)
    | _ => .object overlay
  | overlay => overlay

def mergeMembers (members : List (String × Json)) : List (String × Json) → List (String × Json)
  | [] => members
  | (name, value) :: overlay =>
    let joined :=
      match Entries.get? members name with
      | some old => merge old value
      | none => value
    mergeMembers (Entries.insert name joined members) overlay

end

mutual

def beq : Json → Json → Bool
  | .null, .null => true
  | .bool a, .bool b => a = b
  | .int a _, .int b _ => a = b
  | .float a _, .float b _ => a = b
  | .text a, .text b => a = b
  | .array a, .array b => beqItems a b
  | .object a, .object b => beqMembers a b
  | _, _ => false

def beqItems : List Json → List Json → Bool
  | [], [] => true
  | a :: as, b :: bs => beq a b && beqItems as bs
  | _, _ => false

def beqMembers : List (String × Json) → List (String × Json) → Bool
  | [], [] => true
  | (name, a) :: as, (other, b) :: bs => name = other && beq a b && beqMembers as bs
  | _, _ => false

end

mutual

theorem beq_iff : ∀ {a b : Json}, beq a b = true ↔ a = b
  | .array items, b => by cases b <;> simp [beq, beqItems_iff (l := items)]
  | .object members, b => by cases b <;> simp [beq, beqMembers_iff (l := members)]
  | .null, b | .bool _, b | .int _ _, b | .float _ _, b | .text _, b => by cases b <;> simp [beq]

theorem beqItems_iff : ∀ {l m : List Json}, beqItems l m = true ↔ l = m
  | [], m => by cases m <;> simp [beqItems]
  | a :: l, m => by
    cases m <;> simp [beqItems, beq_iff (a := a), beqItems_iff (l := l)]

theorem beqMembers_iff : ∀ {l m : List (String × Json)}, beqMembers l m = true ↔ l = m
  | [], m => by cases m <;> simp [beqMembers]
  | (name, a) :: l, m => by
    cases m <;> simp [beqMembers, beq_iff (a := a), beqMembers_iff (l := l), Prod.ext_iff]

end

instance : DecidableEq Json := fun _ _ => decidable_of_iff _ beq_iff

end Json

end FormIntake
