import FormIntake.Number.Binary64

/-!
The shortest decimal digits that read back as a given double, and of the shortest ones the nearest.
Every double is the nearest one to all numbers of an interval around it; its ends belong to it when
the significand is even.
-/

namespace FormIntake

/-- The number `0.d₁d₂…dₙ · 10^point`. -/
structure DecimalDigits where
  digits : List Char
  point : Int
  deriving DecidableEq, Repr

namespace DecimalDigits

def ofNat (n : Nat) (scale : Int) : DecimalDigits :=
  let all := Nat.toDigits 10 n
  ⟨(all.reverse.dropWhile (· = '0')).reverse, all.length + scale⟩

def positional (d : DecimalDigits) : List Char :=
  if d.point ≤ 0 then ['0', '.'] ++ List.replicate (-d.point).toNat '0' ++ d.digits
  else if d.digits.length ≤ d.point.toNat then
    d.digits ++ List.replicate (d.point.toNat - d.digits.length) '0'
  else d.digits.take d.point.toNat ++ ['.'] ++ d.digits.drop d.point.toNat

end DecimalDigits

namespace Binary64

/-- A finite double in units of a common fraction: `value / den`, read back from everything between
`low / den` and `high / den`. -/
structure Interval where
  low : Nat
  value : Nat
  high : Nat
  den : Nat
  closed : Bool

def interval (x : Binary64) : Interval :=
  let m := x.significand
  let e := x.exponent - 2
  let scale := if 0 ≤ e then 2 ^ e.toNat else 1
  let lower := if x.isPowerBoundary then 1 else 2
  { low := (4 * m - lower) * scale
    value := 4 * m * scale
    high := (4 * m + 2) * scale
    den := if 0 ≤ e then 1 else 2 ^ (-e).toNat
    closed := m % 2 = 0 }

def Interval.holds (i : Interval) (num den : Nat) : Bool :=
  if i.closed then i.low * den ≤ num * i.den && num * i.den ≤ i.high * den
  else i.low * den < num * i.den && num * i.den < i.high * den

/-- The least `k` at or above `-fuel` with `num / den < 10^k`, for `num / den` below one. -/
def leadingPower (num den : Nat) : Nat → Int
  | 0 => 0
  | fuel + 1 => if num * 10 < den then leadingPower (num * 10) den fuel - 1 else 0

def powerAbove (num den : Nat) : Int :=
  if den ≤ num then (Nat.toDigits 10 (num / den)).length else leadingPower num den 400

def searchDigits (i : Interval) (tie : Tie) (power : Int) (count : Nat) : Nat → DecimalDigits
  | 0 => .ofNat 0 0
  | fuel + 1 =>
    let scale := power - count
    let up := if 0 ≤ scale then 10 ^ scale.toNat else 1
    let down := if 0 ≤ scale then 1 else 10 ^ (-scale).toNat
    let floor := i.value * down / (i.den * up)
    let floorHolds := i.holds (floor * up) down
    let ceilingHolds := i.holds ((floor + 1) * up) down
    if floorHolds && ceilingHolds then
      .ofNat (roundDiv tie (i.value * down) (i.den * up)) scale
    else if floorHolds then .ofNat floor scale
    else if ceilingHolds then .ofNat (floor + 1) scale
    else searchDigits i tie power (count + 1) fuel

/-- The shortest digits of a finite double other than zero, without its sign. -/
def shortestDigits (tie : Tie) (x : Binary64) : DecimalDigits :=
  let i := x.interval
  searchDigits i tie (powerAbove i.value i.den) 1 20

def text (x : Binary64) : String :=
  if x.isNaN then "NaN"
  else
    let sign := if x.isNegative then ['-'] else []
    let body :=
      if !x.isFinite then ['i', 'n', 'f']
      else if x.isZero then ['0']
      else (x.shortestDigits .upward).positional
    String.ofList (sign ++ body)

end Binary64

end FormIntake
