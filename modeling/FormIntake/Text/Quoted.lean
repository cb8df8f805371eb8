import FormIntake.Text.Property

namespace FormIntake.Text

/-- Whether `c` is written as it is: it shows, is not to be ignored where it is not known, and does
not join the character in front of it. The halfwidth voice marks join it but take a place of their
own. -/
def isPrintable (c : Char) : Bool :=
  isVisible c &&
    (c.toNat < 0x80 ||
      !Property.defaultIgnorable.set.contains c &&
        (!isGraphemeExtend c || c = '\uFF9E' || c = '\uFF9F'))

def hexDigits (n : Nat) : List Char := Nat.toDigits 16 n

def quoteChar (c : Char) : List Char :=
  match c with
  | '\x00' => ['\\', '0']
  | '\t' => ['\\', 't']
  | '\r' => ['\\', 'r']
  | '\n' => ['\\', 'n']
  | '"' => ['\\', '"']
  | '\\' => ['\\', '\\']
  | c =>
    if isPrintable c then [c]
    else ['\\', 'u', '\x7b'] ++ hexDigits c.toNat ++ ['\x7d']

def quoted (s : String) : String :=
  String.ofList ('"' :: s.toList.flatMap quoteChar ++ ['"'])

end FormIntake.Text
