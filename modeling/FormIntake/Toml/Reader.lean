import FormIntake.Toml.Document
import FormIntake.Toml.Scalar

namespace FormIntake.Toml

namespace Grammar

open FormIntake.Text Reader

def skipSpace : Reader Unit := do let _ ← Reader.takeWhile fun c => c = ' ' || c = '\t'

def comment : Reader Unit := do
  char '#'
  let _ ← Reader.takeWhile isPlain

def skipGap : Reader Unit := do
  let gap := orElse (do let _ ← satisfy fun c => c = ' ' || c = '\t') (orElse newline comment)
  let _ ← many gap

def lineEnd : Reader Unit := do
  skipSpace
  let _ ← attempt? comment
  if ← atEnd? then return () else newline

def isBareKey (c : Char) : Bool := c.isAlphanum || c = '-' || c = '_'

def simpleKey : Reader String := do
  match ← peek? with
  | some '"' => basicString
  | some '\'' => literalString
  | _ => return String.ofList (← takeWhile1 isBareKey)

def keyPart : Reader String := do
  skipSpace
  let key ← simpleKey
  skipSpace
  return key

def dottedKey : Reader DottedKey := do
  let first ← keyPart
  let rest ← many do char '.'; keyPart
  let parts := first :: rest
  if 80 ≤ parts.length then fail
  return ⟨parts.dropLast, parts.getLast?.getD first⟩

def separated {α : Type} (item : Reader α) : Reader (List α) := do
  match ← attempt? item with
  | none => return []
  | some first =>
    let rest ← many do char ','; item
    return first :: rest

def arrayItem (value : Reader Toml) : Reader Toml := do
  skipGap
  let v ← value
  skipGap
  return v

def arrayBody (value : Reader Toml) : Reader Toml := do
  let items ← separated (arrayItem value)
  if !items.isEmpty then let _ ← skip? ','
  skipGap
  char ']'
  return .array items

def assignment (value : Reader Toml) : Reader (DottedKey × Toml) := do
  let key ← dottedKey
  char '='
  skipSpace
  return (key, ← value)

def inlineTableBody (value : Reader Toml) : Reader Toml := do
  let assignments ← separated do
    let a ← assignment value
    skipSpace
    return a
  skipSpace
  char '\x7d'
  StateT.lift (ofAssignments assignments)

def value : Nat → Reader Toml
  | 0 => scalar
  | depth + 1 => do
    if ← skip? '[' then arrayBody (value depth)
    else if ← skip? '\x7b' then inlineTableBody (value depth)
    else scalar

def statement : Reader Statement := do
  if ← skip? '[' then
    if ← skip? '[' then
      let key ← dottedKey
      char ']'; char ']'
      return .rowHeader key
    else
      let key ← dottedKey
      char ']'
      return .header key
  else
    let (key, v) ← assignment (value 79)
    return .assignment key v

def line : Reader (Option Statement) := do
  skipSpace
  match ← peek? with
  | none => fail
  | some c =>
    let s ← if c = '#' || c = '\n' || c = '\r' then pure none else some <$> statement
    lineEnd
    return s

def document : Reader (List Statement) := do
  let _ ← skip? '\uFEFF'
  let lines ← many line
  skipSpace
  return lines.filterMap id

end Grammar

def read (cs : List Char) : Option Toml := do
  ofStatements (← Text.Reader.readAll Grammar.document cs)

end FormIntake.Toml
