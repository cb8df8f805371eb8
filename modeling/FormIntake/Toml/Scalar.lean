import FormIntake.Calendar.Date
import FormIntake.Number.Decimal
import FormIntake.Text.Scan
import FormIntake.Toml

namespace FormIntake.Toml.Grammar

open FormIntake.Text Reader

def newline : Reader Unit := do
  let _ ← skip? '\r'
  char '\n'

/-- Whether `c` may stand in a comment, and in a string if it means nothing else there. -/
def isPlain (c : Char) : Bool := c = '\t' || (0x20 ≤ c.toNat && c.toNat ≠ 0x7F)

def codePoint (count : Nat) : Reader Char := do
  let digits ← (List.replicate count ()).mapM fun _ => next
  StateT.lift ((numeral? 16 digits).bind scalar?)

def escape : Reader Char := do
  char '\\'
  match ← next with
  | 'b' => return '\x08'
  | 't' => return '\t'
  | 'n' => return '\n'
  | 'f' => return '\x0c'
  | 'r' => return '\r'
  | '"' => return '"'
  | '\\' => return '\\'
  | 'u' => codePoint 4
  | 'U' => codePoint 8
  | _ => fail

def basicString : Reader String := do
  char '"'
  let body ← many (orElse (satisfy fun c => isPlain c && c ≠ '"' && c ≠ '\\') escape)
  char '"'
  return String.ofList body

def literalString : Reader String := do
  char '\''
  let body ← many (satisfy fun c => isPlain c && c ≠ '\'')
  char '\''
  return String.ofList body

def innerQuotes (quote : Char) : Reader (List Char) := do
  let quotes ← takeWhile1 (· = quote)
  if quotes.length ≤ 2 then return quotes else fail

def closingQuotes (quote : Char) : Reader (List Char) := do
  let quotes ← takeWhile1 (· = quote)
  let inner := min (quotes.length - 3) 2
  if quotes.length < 3 ∨ quotes.length ≠ 3 + inner then fail
  else return List.replicate inner quote

/-- A backslash at the end of a line, and the white space that it takes away. -/
def lineJoin : Reader (List Char) := do
  char '\\'
  let _ ← Reader.takeWhile fun c => c = ' ' || c = '\t'
  newline
  let _ ← many (orElse (do let _ ← satisfy fun c => c = ' ' || c = '\t') newline)
  return []

def newlineText : Reader (List Char) := do newline; return ['\n']

/-- A string between threes of `quote`, made of pieces; a line feed right at its start is left out.
-/
def longString (quote : Char) (piece : Reader (List Char)) : Reader String := do
  char quote; char quote; char quote
  let _ ← attempt? newline
  let pieces ← many (orElse piece (orElse newlineText (innerQuotes quote)))
  return String.ofList (pieces.flatten ++ (← closingQuotes quote))

def longBasicString : Reader String :=
  longString '"' (orElse (do return [← satisfy fun c => isPlain c && c ≠ '"' && c ≠ '\\'])
    (orElse (do return [← escape]) lineJoin))

def longLiteralString : Reader String :=
  longString '\'' do return [← satisfy fun c => isPlain c && c ≠ '\'']

def string : Reader String :=
  orElse longBasicString (orElse longLiteralString (orElse basicString literalString))

def digitGroups (base : Nat) : Reader (List Char) := do
  let digit := satisfy fun c => (hexValue? c).any (· < base)
  let first ← digit
  let rest ← many (orElse digit do char '_'; digit)
  return first :: rest

def sign : Reader (List Char) := do
  if ← skip? '-' then return ['-']
  else if ← skip? '+' then return ['+']
  else return []

def decimalDigits : Reader (List Char) := do
  let s ← sign
  if ← skip? '0' then return s ++ ['0']
  else return s ++ (← digitGroups 10)

def heldInteger (n : Int) : Reader IntWidth.i64.Value := StateT.lift (IntWidth.i64.value? n)

def basedInteger (letter : Char) (base : Nat) : Reader IntWidth.i64.Value := do
  char '0'; char letter
  heldInteger (← StateT.lift (numeral? base (← digitGroups base)))

def integer : Reader IntWidth.i64.Value :=
  orElse (basedInteger 'x' 16) (orElse (basedInteger 'o' 8) (orElse (basedInteger 'b' 2) do
    match Integer.read .i64 (← decimalDigits) with
    | .ok n => heldInteger n
    | .error _ => fail))

def exponent : Reader (List Char) := do
  let _ ← satisfy fun c => c = 'e' || c = 'E'
  return 'e' :: (← sign) ++ (← digitGroups 10)

def fraction : Reader (List Char) := do
  char '.'
  return '.' :: (← digitGroups 10)

/-- A number with a fraction or an exponent. Only the positive infinity is out of range. -/
def float : Reader Binary64 := do
  let whole ← decimalDigits
  let places ← attempt? fraction
  let power ← attempt? exponent
  if places.isNone && power.isNone then fail
  let x ← StateT.lift (Decimal.read (whole ++ places.getD [] ++ power.getD []))
  if x = .infinity false then fail else return x

def specialFloat : Reader Binary64 := do
  let s ← sign
  let x ← orElse (do word "inf"; return Binary64.infinity false) do word "nan"; return Binary64.nan
  return if s = ['-'] then x.neg else x

def pair (greatest : Nat) : Reader (List Char) := do
  let digits := [← satisfy Char.isDigit, ← satisfy Char.isDigit]
  if Decimal.digitsValue digits ≤ greatest then return digits else fail

def date : Reader (List Char) := do
  let year := (← pair 99) ++ (← pair 99)
  char '-'
  let month ← pair 12
  char '-'
  let day ← pair 31
  let d := Date.ofYmd? (Decimal.digitsValue year) (Decimal.digitsValue month)
    (Decimal.digitsValue day)
  if d.isNone then fail else return year ++ '-' :: month ++ '-' :: day

/-- A fraction of a second: nine digits at most, and no zeros at its end. -/
def secondFraction : Reader (List Char) := do
  char '.'
  let digits ← takeWhile1 Char.isDigit
  let kept := ((digits.take 9).reverse.dropWhile (· = '0')).reverse
  return if kept.isEmpty then [] else '.' :: kept

def time (greatestHour : Nat) : Reader (List Char) := do
  let hour ← pair greatestHour
  char ':'
  let minute ← pair 59
  char ':'
  let second ← pair 60
  return hour ++ ':' :: minute ++ ':' :: second ++ ((← attempt? secondFraction).getD [])

def zuluOffset : Reader (List Char) := do
  let _ ← satisfy fun c => c = 'Z' || c = 'z'
  return ['Z']

/-- An offset in digits; one of zero is written with a plus sign. -/
def digitsOffset : Reader (List Char) := do
  let s ← satisfy fun c => c = '+' || c = '-'
  let hour ← pair 23
  char ':'
  let minute ← pair 59
  let zero := hour = ['0', '0'] ∧ minute = ['0', '0']
  return (if zero then '+' else s) :: hour ++ ':' :: minute

def isBeforeTime (c : Char) : Bool := c = 'T' || c = 't' || c = ' '

def timeAfterDate : Reader (List Char) := do
  let _ ← satisfy isBeforeTime
  let t ← time 23
  let o ← attempt? (orElse zuluOffset digitsOffset)
  return 'T' :: t ++ o.getD []

def dateTime : Reader (List Char) :=
  orElse (do return (← date) ++ ((← attempt? timeAfterDate).getD [])) (time 23)

/-- An offset of at most a day, whose minutes may be more than an hour. -/
def markedOffset : Reader (List Char) := do
  let s ← satisfy fun c => c = '+' || c = '-'
  let hours ← pair 99
  char ':'
  let total := 60 * Decimal.digitsValue hours + Decimal.digitsValue (← pair 99)
  if 24 * 60 < total then fail
  let two (n : Nat) := [(n / 10).digitChar, (n % 10).digitChar]
  return (if total = 0 then '+' else s) :: two (total / 60) ++ ':' :: two (total % 60)

/-- A date-time in a string. It may have the hour 24, and a time of day has no date if its third
character is a colon. -/
def marked : Reader (List Char) := do
  if (← get)[2]? = some ':' then time 24
  else
    let d ← date
    if !(← peek?).any isBeforeTime then return d
    let _ ← next
    let t ← time 24
    let o ← if ← atEnd? then pure [] else orElse zuluOffset markedOffset
    return d ++ 'T' :: t ++ o

def number : Reader Toml :=
  orElse (do return .dateTime (String.ofList (← dateTime)))
    (orElse (do return .float (← float))
      (orElse (do return .float (← specialFloat)) (do return .integer (← integer))))

def scalar : Reader Toml :=
  orElse (do return .text (← string))
    (orElse (do word "true"; return .boolean true)
      (orElse (do word "false"; return .boolean false) number))

end FormIntake.Toml.Grammar
