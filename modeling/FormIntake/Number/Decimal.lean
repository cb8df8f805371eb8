import FormIntake.Number.Binary64
import FormIntake.Number.Integer

/-!
Decimal texts of doubles: an optional sign, digits with at most one point and at least one digit,
and an optional exponent; or, in any letter case, the words for infinity and for no number. The
value is the double nearest to the number written.
-/

namespace FormIntake.Decimal

def takeDigits (cs : List Char) : List Char × List Char :=
  (cs.takeWhile Char.isDigit, cs.dropWhile Char.isDigit)

def digitsValue (digits : List Char) : Nat :=
  digits.foldl (fun n c => 10 * n + (c.toNat - '0'.toNat)) 0

/-- The double nearest to `± m · 10^e`. Far outside the range of doubles the powers are left out. -/
def nearest (negative : Bool) (m : Nat) (e : Int) : Binary64 :=
  if m = 0 then .ofMagnitude negative 0
  else
    let size : Int := (Nat.toDigits 10 m).length + e
    if 400 < size then .infinity negative
    else if size < -400 then .ofMagnitude negative 0
    else if 0 ≤ e then .ofRatio negative (m * 10 ^ e.toNat) 1
    else .ofRatio negative m (10 ^ (-e).toNat)

def readExponent : List Char → Option Int
  | [] => some 0
  | c :: cs =>
    if c = 'e' ∨ c = 'E' then
      let (negative, digits) :=
        match cs with
        | '-' :: rest => (true, rest)
        | '+' :: rest => (false, rest)
        | rest => (false, rest)
      if digits.isEmpty || !digits.all Char.isDigit then none
      else
        let n := digitsValue digits
        some (if negative then -n else n)
    else none

def readNumber (negative : Bool) (cs : List Char) : Option Binary64 :=
  let (whole, afterWhole) := takeDigits cs
  let (fraction, afterFraction) :=
    match afterWhole with
    | '.' :: rest => takeDigits rest
    | rest => ([], rest)
  if whole.isEmpty && fraction.isEmpty then none
  else do
    let e ← readExponent afterFraction
    return nearest negative (digitsValue (whole ++ fraction)) (e - fraction.length)

def readUnsigned (negative : Bool) (cs : List Char) : Option Binary64 :=
  let word := String.ofList (cs.map Char.toLower)
  if word = "inf" ∨ word = "infinity" then some (.infinity negative)
  else if word = "nan" then some .nan
  else readNumber negative cs

def read : List Char → Option Binary64
  | '+' :: cs => readUnsigned false cs
  | '-' :: cs => readUnsigned true cs
  | cs => readUnsigned false cs

end FormIntake.Decimal
