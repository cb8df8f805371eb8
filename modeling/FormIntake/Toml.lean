import FormIntake.Number.Binary64
import FormIntake.Number.Integer

namespace FormIntake

inductive Toml
  | text (value : String)
  | integer (value : IntWidth.i64.Value)
  | float (value : Binary64)
  | boolean (value : Bool)
  /-- A date, a time of day or both, as it is written. -/
  | dateTime (written : String)
  | array (items : List Toml)
  | table (members : List (String × Toml))

namespace Toml

mutual

def beq : Toml → Toml → Bool
  | .text a, .text b => a = b
  | .integer a, .integer b => a = b
  | .float a, .float b => a = b
  | .boolean a, .boolean b => a = b
  | .dateTime a, .dateTime b => a = b
  | .array a, .array b => beqItems a b
  | .table a, .table b => beqMembers a b
  | _, _ => false

def beqItems : List Toml → List Toml → Bool
  | [], [] => true
  | a :: as, b :: bs => beq a b && beqItems as bs
  | _, _ => false

def beqMembers : List (String × Toml) → List (String × Toml) → Bool
  | [], [] => true
  | (name, a) :: as, (other, b) :: bs => name = other && beq a b && beqMembers as bs
  | _, _ => false

end

mutual

theorem beq_iff : ∀ {a b : Toml}, beq a b = true ↔ a = b
  | .array items, b => by cases b <;> simp [beq, beqItems_iff (l := items)]
  | .table members, b => by cases b <;> simp [beq, beqMembers_iff (l := members)]
  | .text _, b | .integer _, b | .float _, b | .boolean _, b | .dateTime _, b => by
    cases b <;> simp [beq]

theorem beqItems_iff : ∀ {l m : List Toml}, beqItems l m = true ↔ l = m
  | [], m => by cases m <;> simp [beqItems]
  | a :: l, m => by
    cases m <;> simp [beqItems, beq_iff (a := a), beqItems_iff (l := l)]

theorem beqMembers_iff : ∀ {l m : List (String × Toml)}, beqMembers l m = true ↔ l = m
  | [], m => by cases m <;> simp [beqMembers]
  | (name, a) :: l, m => by
    cases m <;> simp [beqMembers, beq_iff (a := a), beqMembers_iff (l := l), Prod.ext_iff]

end

instance : DecidableEq Toml := fun _ _ => decidable_of_iff _ beq_iff

end Toml

end FormIntake
