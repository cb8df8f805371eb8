import FormIntake.Number.Binary64

namespace FormIntake.Binary64

def placesText (n places : Nat) : List Char :=
  let digits := Nat.toDigits 10 n
  let padded := List.replicate (places + 1 - digits.length) '0' ++ digits
  let whole := padded.length - places
  padded.take whole ++ (if places = 0 then [] else '.' :: padded.drop whole)

/-- `x` with `places` decimal places; the sign stays where all digits are zero. -/
def textWithPlaces (places : Nat) (x : Binary64) : String :=
  if x.isNaN then "NaN"
  else
    let sign := if x.isNegative then ['-'] else []
    let body :=
      if !x.isFinite then ['i', 'n', 'f']
      else
        let num := x.significand * 10 ^ places
        let e := x.exponent
        let units :=
          if 0 ≤ e then num * 2 ^ e.toNat else roundDiv .toEven num (2 ^ (-e).toNat)
        placesText units places
    String.ofList (sign ++ body)

end FormIntake.Binary64
