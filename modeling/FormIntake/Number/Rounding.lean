import FormIntake.Number.Power

namespace FormIntake

inductive Tie
  | toEven | upward
  deriving DecidableEq, Repr

/-- `num / den` rounded to the nearest; `den` is positive. -/
def roundDiv (tie : Tie) (num den : Nat) : Nat :=
  let q := num / den
  let twice := 2 * (num % den)
  if twice < den then q
  else if den < twice then q + 1
  else
    match tie with
    | .upward => q + 1
    | .toEven => if q % 2 = 0 then q else q + 1

end FormIntake
