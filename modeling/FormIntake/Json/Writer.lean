import FormIntake.Json
import FormIntake.Number.Shortest
import FormIntake.Text.Quoted

namespace FormIntake

namespace Binary64

def withExponent (d : DecimalDigits) : List Char :=
  let fraction := d.digits.drop 1
  let power := d.point - 1
  d.digits.take 1 ++ (if fraction.isEmpty then [] else '.' :: fraction) ++
    ['e', if power < 0 then '-' else '+'] ++ (toString power.natAbs).toList

/-- A finite double as a JSON number: positional from `10^-5` up to `10^16` and with an exponent
outside, and always with a sign that it is no integer. -/
def jsonText (x : Binary64) : String :=
  let sign := if x.isNegative then ['-'] else []
  let body :=
    if x.isZero then ['0', '.', '0']
    else
      let d := x.shortestDigits .toEven
      if d.point ≤ -5 ∨ 16 < d.point then withExponent d
      else if (d.digits.length : Int) ≤ d.point then d.positional ++ ['.', '0']
      else d.positional
  String.ofList (sign ++ body)

end Binary64

namespace Json

def escapeChar (c : Char) : List Char :=
  match c with
  | '"' => ['\\', '"']
  | '\\' => ['\\', '\\']
  | '\x08' => ['\\', 'b']
  | '\x0c' => ['\\', 'f']
  | '\n' => ['\\', 'n']
  | '\r' => ['\\', 'r']
  | '\t' => ['\\', 't']
  | c =>
    if c.toNat < 0x20 then
      ['\\', 'u', '0', '0', (c.toNat / 16).digitChar, (c.toNat % 16).digitChar]
    else [c]

def writeText (s : String) : String :=
  String.ofList ('"' :: s.toList.flatMap escapeChar ++ ['"'])

mutual

def write : Json → String
  | .null => "null"
  | .bool b => if b then "true" else "false"
  | .int n _ => toString n
  | .float x _ => x.jsonText
  | .text s => writeText s
  | .array items => "[" ++ String.intercalate "," (writeItems items) ++ "]"
  | .object members => "\x7b" ++ String.intercalate "," (writeMembers members) ++ "\x7d"

def writeItems : List Json → List String
  | [] => []
  | item :: rest => write item :: writeItems rest

def writeMembers : List (String × Json) → List String
  | [] => []
  | (name, value) :: rest => (writeText name ++ ":" ++ write value) :: writeMembers rest

end

end Json

end FormIntake
