import FormIntake.Number.Rounding

namespace FormIntake

structure Binary64 where
  bits : UInt64
  deriving DecidableEq, Repr

namespace Binary64

def magnitude (x : Binary64) : Nat := x.bits.toNat % 2 ^ 63

def isNegative (x : Binary64) : Bool := 2 ^ 63 ≤ x.bits.toNat

/-- The magnitude of the infinities; the magnitudes above it are those of the NaNs. -/
def infinityMagnitude : Nat := 0x7FF * 2 ^ 52

def isNaN (x : Binary64) : Bool := infinityMagnitude < x.magnitude

def isFinite (x : Binary64) : Bool := x.magnitude < infinityMagnitude

def isZero (x : Binary64) : Bool := x.magnitude = 0

def ofMagnitude (negative : Bool) (magnitude : Nat) : Binary64 :=
  ⟨UInt64.ofNat (if negative then 2 ^ 63 + magnitude else magnitude)⟩

def zero : Binary64 := ofMagnitude false 0

def infinity (negative : Bool) : Binary64 := ofMagnitude negative infinityMagnitude

def nan : Binary64 := ofMagnitude false (infinityMagnitude + 2 ^ 51)

def neg (x : Binary64) : Binary64 := ofMagnitude (!x.isNegative) x.magnitude

def significand (x : Binary64) : Nat :=
  if x.magnitude < 2 ^ 52 then x.magnitude else 2 ^ 52 + x.magnitude % 2 ^ 52

def exponent (x : Binary64) : Int := (max (x.magnitude / 2 ^ 52) 1 : Nat) - 1075

/-- Whether the next smaller magnitude is half as far away as the next larger one. -/
def isPowerBoundary (x : Binary64) : Bool :=
  x.magnitude % 2 ^ 52 = 0 && 2 ^ 53 ≤ x.magnitude

def orderKey (x : Binary64) : Int := if x.isNegative then -x.magnitude else x.magnitude

def lt (x y : Binary64) : Bool := !x.isNaN && !y.isNaN && x.orderKey < y.orderKey

/-- The magnitude of the double nearest to `num / den`, ties to even; `den` is positive. -/
def nearestMagnitude (num den : Nat) : Nat :=
  if num = 0 then 0
  else
    let estimate : Int := (num.log2 : Int) - den.log2
    let below : Bool :=
      if 0 ≤ estimate then num < den * 2 ^ estimate.toNat else num * 2 ^ (-estimate).toNat < den
    let power : Int := if below then estimate - 1 else estimate
    let e : Int := max (power - 52) (-1074)
    let q :=
      if 0 ≤ e then roundDiv .toEven num (den * 2 ^ e.toNat)
      else roundDiv .toEven (num * 2 ^ (-e).toNat) den
    min ((e + 1074).toNat * 2 ^ 52 + q) infinityMagnitude

def ofRatio (negative : Bool) (num den : Nat) : Binary64 :=
  ofMagnitude negative (nearestMagnitude num den)

def ofNat (n : Nat) : Binary64 := ofRatio false n 1

def ofInt (n : Int) : Binary64 := ofRatio (n < 0) n.natAbs 1

def mul (x y : Binary64) : Binary64 :=
  let negative := x.isNegative != y.isNegative
  let m := x.significand * y.significand
  let e := x.exponent + y.exponent
  if 0 ≤ e then ofRatio negative (m * 2 ^ e.toNat) 1 else ofRatio negative m (2 ^ (-e).toNat)

def div (x y : Binary64) : Binary64 :=
  let negative := x.isNegative != y.isNegative
  let e := x.exponent - y.exponent
  if 0 ≤ e then ofRatio negative (x.significand * 2 ^ e.toNat) y.significand
  else ofRatio negative x.significand (y.significand * 2 ^ (-e).toNat)

end Binary64

end FormIntake
