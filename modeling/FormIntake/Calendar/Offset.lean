import FormIntake.Number.Integer
import FormIntake.Text.Blank

namespace FormIntake

/-- Seconds that local time is ahead of universal time. -/
structure UtcOffset where
  seconds : Int
  withinDay : -86400 < seconds ∧ seconds < 86400
  deriving DecidableEq

namespace UtcOffset

def ofSeconds? (seconds : Int) : Option UtcOffset :=
  if fits : -86400 < seconds ∧ seconds < 86400 then some ⟨seconds, fits⟩ else none

def zero : UtcOffset := ⟨0, by decide⟩

def isSeparator (c : Char) : Bool := c = ':' || Text.isBlank c

def readPair : List Char → Option (Nat × List Char)
  | tens :: ones :: rest => do
    let t ← Integer.digit? tens
    let o ← Integer.digit? ones
    return (10 * t + o, rest)
  | _ => none

/-- Hours and minutes behind a sign, with colons or white space between them; in seconds. -/
def readClock (cs : List Char) : Option (Nat × List Char) := do
  let (hours, rest) ← readPair cs
  let (minutes, rest) ← readPair (rest.dropWhile isSeparator)
  if minutes < 60 then some (3600 * hours + 60 * minutes, rest) else none

def readHours (cs : List Char) : Option (Nat × List Char) := do
  let (hours, rest) ← readPair cs
  if (rest.dropWhile isSeparator).isEmpty then some (3600 * hours, []) else readClock cs

def readSigned (clock : List Char → Option (Nat × List Char)) :
    List Char → Option (Int × List Char)
  | [] => none
  | c :: cs => do
    let (seconds, rest) ← clock cs
    if c = '+' then some (seconds, rest)
    else if c = '-' ∨ c = '\u2212' then some (-seconds, rest)
    else none

def readFront (cs : List Char) : Option (Int × List Char) := readSigned readClock cs

def readZulu (clock : List Char → Option (Nat × List Char)) : List Char → Option (Int × List Char)
  | 'Z' :: rest | 'z' :: rest => some (0, rest)
  | cs => readSigned clock cs

def read (cs : List Char) : Option UtcOffset :=
  match readFront cs with
  | some (seconds, []) => ofSeconds? seconds
  | _ => none

def twoDigits (n : Nat) : List Char := [(n / 10 % 10).digitChar, (n % 10).digitChar]

/-- The offset to the nearest minute, half a minute away from zero. -/
def write (o : UtcOffset) : List Char :=
  let minutes := (o.seconds.natAbs + 30) / 60
  (if o.seconds < 0 then '-' else '+') :: twoDigits (minutes / 60) ++
    ':' :: twoDigits (minutes % 60)

/-- Reads the text of a time zone: `UTC` in any letter case, `Z`, or an offset. -/
def ofZone? (zone : String) : Option UtcOffset :=
  let text := Text.trim zone
  if text.toList.map Char.toLower = ['u', 't', 'c'] ∨ text = "Z" then some zero
  else read text.toList

end UtcOffset

end FormIntake
