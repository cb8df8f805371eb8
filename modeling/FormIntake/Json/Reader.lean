import FormIntake.Json
import FormIntake.Number.Decimal
import FormIntake.Text.Scan

/-!
JSON texts. Of members with the same name the last one counts. An integer that sixty-four bits do
not hold is read as a double, and so is a negative zero. Values nest at most 127 deep.
-/

namespace FormIntake.Json

open FormIntake.Text Reader

def isSpace (c : Char) : Bool := c = ' ' || c = '\n' || c = '\t' || c = '\r'

def skipSpace : Reader Unit := do let _ ← Reader.takeWhile isSpace

def hexQuad? (a b c d : Char) : Option Nat := numeral? 16 [a, b, c, d]

def escape? : Char → Option Char
  | '"' => some '"'
  | '\\' => some '\\'
  | '/' => some '/'
  | 'b' => some '\x08'
  | 'f' => some '\x0c'
  | 'n' => some '\n'
  | 'r' => some '\r'
  | 't' => some '\t'
  | _ => none

def surrogatePair? (high low : Nat) : Option Char :=
  if 0xD800 ≤ high ∧ high ≤ 0xDBFF ∧ 0xDC00 ≤ low ∧ low ≤ 0xDFFF then
    scalar? (0x10000 + (high - 0xD800) * 0x400 + (low - 0xDC00))
  else none

def stringBody : Reader (List Char)
  | [] => none
  | '"' :: rest => some ([], rest)
  | '\\' :: 'u' :: a :: b :: c :: d :: '\\' :: 'u' :: e :: f :: g :: h :: rest => do
    let high ← hexQuad? a b c d
    match scalar? high with
    | some x =>
      let (body, rest) ← stringBody ('\\' :: 'u' :: e :: f :: g :: h :: rest)
      return (x :: body, rest)
    | none =>
      let x ← surrogatePair? high (← hexQuad? e f g h)
      let (body, rest) ← stringBody rest
      return (x :: body, rest)
  | '\\' :: 'u' :: a :: b :: c :: d :: rest => do
    let x ← scalar? (← hexQuad? a b c d)
    let (body, rest) ← stringBody rest
    return (x :: body, rest)
  | '\\' :: e :: rest => do
    let x ← escape? e
    let (body, rest) ← stringBody rest
    return (x :: body, rest)
  | c :: rest => do
    if c.toNat < 0x20 ∨ c = '\\' then none
    else
      let (body, rest) ← stringBody rest
      return (c :: body, rest)

/-- The digits that fit into sixty-four bits, read after `n`, and the digits from the first one on
that does not fit. -/
def takeWord (n : Nat) : List Char → Nat × List Char
  | [] => (n, [])
  | c :: rest =>
    let next := 10 * n + (c.toNat - '0'.toNat)
    if next < 2 ^ 64 then takeWord next rest else (n, c :: rest)

/-- The double that digits and a power of ten scale to, in one step for each part of the power that
has a double of its own; none where the result is too large. -/
def scaled (negative : Bool) (n : Nat) (e : Int) : Option Binary64 :=
  let power (k : Nat) : Binary64 := .ofNat (10 ^ k)
  let signed (x : Binary64) : Binary64 := .ofMagnitude negative x.magnitude
  let x := Binary64.ofNat n
  if x.isZero then some (signed x)
  else if 308 < e then none
  else if 0 ≤ e then
    let y := x.mul (power e.toNat)
    if y.isFinite then some (signed y) else none
  else if -308 ≤ e then some (signed (x.div (power (-e).toNat)))
  else if -616 ≤ e then
    some (signed ((x.div (power 308)).div (power (-e - 308).toNat)))
  else some (signed .zero)

def exponent : Reader (Bool × Nat) := do
  let negative ← skip? '-'
  if !negative then let _ ← skip? '+'
  return (negative, Decimal.digitsValue (← takeWhile1 Char.isDigit))

def unsigned (negative : Bool) : Reader Json := do
  let whole ← takeWhile1 Char.isDigit
  if whole.head? = some '0' && 1 < whole.length then fail
  let fraction ← if ← skip? '.' then some <$> takeWhile1 Char.isDigit else pure none
  let power ←
    match ← peek? with
    | some 'e' | some 'E' => let _ ← next; some <$> exponent
    | _ => pure none
  let (n, spilled) := takeWord 0 whole
  if fraction.isNone && power.isNone && spilled.isEmpty then
    if !negative then StateT.lift (int? n)
    else if n = 0 ∨ 2 ^ 63 < n then return ofFloat (Binary64.ofNat n).neg
    else StateT.lift (int? (-n))
  else
    let places := fraction.getD []
    let (m, left) := takeWord n places
    let shift : Int := spilled.length - (places.length - left.length : Nat)
    let (down, k) := power.getD (false, 0)
    ofFloat <$> StateT.lift (scaled negative m (if down then shift - k else shift + k))

def number : Reader Json := do
  if ← skip? '-' then unsigned true else unsigned false

/-- Items up to the closing bracket, with a comma between any two, at most `fuel` of them. -/
def itemsUntil {α : Type} (close : Char) (item : Reader α) : Nat → Reader (List α)
  | 0 => fail
  | fuel + 1 => do
    let first ← item
    skipSpace
    if ← skip? ',' then
      skipSpace
      return first :: (← itemsUntil close item fuel)
    else
      char close
      return [first]

def bracketed {α : Type} (close : Char) (item : Reader α) : Reader (List α) := do
  skipSpace
  if ← skip? close then return []
  else
    let cs ← get
    itemsUntil close item cs.length

def member (value : Reader Json) : Reader (String × Json) := do
  char '"'
  let name ← stringBody
  skipSpace
  char ':'
  skipSpace
  return (String.ofList name, ← value)

def leaf : Reader Json := do
  match ← peek? with
  | some 'n' => word "null"; return .null
  | some 't' => word "true"; return .bool true
  | some 'f' => word "false"; return .bool false
  | some '"' => let _ ← next; return .text (String.ofList (← stringBody))
  | _ => number

def value : Nat → Reader Json
  | 0 => leaf
  | depth + 1 => do
    if ← skip? '[' then return .array (← bracketed ']' (value depth))
    else if ← skip? '\x7b' then return ofMembers (← bracketed '\x7d' (member (value depth)))
    else leaf

def read (cs : List Char) : Option Json :=
  Reader.readAll (do skipSpace; let v ← value 127; skipSpace; return v) cs

end FormIntake.Json
