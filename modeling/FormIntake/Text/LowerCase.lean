import FormIntake.Text.LowerCase.Table
import FormIntake.Text.Ranges

namespace FormIntake.Text.LowerCase

/-- The lower case of one character outside any context; only `İ` becomes two characters. -/
def ofChar (c : Char) : List Char :=
  if c.toNat < 0x80 then [c.toLower]
  else if c.toNat = 0x130 then ['i', '\u0307']
  else
    match runs.find? fun r =>
        r.first ≤ c.toNat && c.toNat ≤ r.last && (c.toNat - r.first) % r.stride == 0 with
    | some r => [Char.ofNat (c.toNat + r.delta).toNat]
    | none => [c]

/-- Whether the first character that case does not ignore is cased. -/
def meetsCased (cs : List Char) : Bool :=
  match cs.dropWhile (inRanges caseIgnorableRanges) with
  | [] => false
  | c :: _ => inRanges casedRanges c

def ofChars (before : List Char) : List Char → List Char
  | [] => []
  | c :: after =>
    let lower :=
      if c = 'Σ' then [if meetsCased before && !meetsCased after then 'ς' else 'σ']
      else ofChar c
    lower ++ ofChars (c :: before) after

end LowerCase

def lowerCase (s : String) : String := String.ofList (LowerCase.ofChars [] s.toList)

end FormIntake.Text
