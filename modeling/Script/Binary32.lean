set_option autoImplicit false

/- Single precision numbers as bit patterns. Every finite value is a whole number of units of
2^-149, so sums, products, quotients and roots are computed exactly on whole numbers and rounded
once, to the nearest pattern and at a half to the even one. -/
namespace Script

/-- A number given by its 32 bits: sign, eight bits of exponent, 23 bits of fraction. -/
structure Binary32 where
  bits : UInt32
deriving DecidableEq, Repr, Inhabited

namespace Binary32

/-- How many units make one. -/
def one : Nat := Nat.pow 2 149

/-- The pattern of infinity without its sign; every larger one is not a number. -/
def infinityBits : Nat := 0x7f800000

def negative (x : Binary32) : Bool := decide (0x80000000 ≤ x.bits.toNat)

/-- The bits without the sign. -/
def magnitude (x : Binary32) : Nat := x.bits.toNat % 0x80000000

def ofParts (negative : Bool) (magnitude : Nat) : Binary32 :=
  ⟨UInt32.ofNat (if negative then 0x80000000 + magnitude else magnitude)⟩

/-- The result of an operation that has none. -/
def nan : Binary32 := ⟨0x7fc00000⟩

def infinity (negative : Bool) : Binary32 := ofParts negative infinityBits

def zero (negative : Bool) : Binary32 := ofParts negative 0

def isNaN (x : Binary32) : Bool := decide (infinityBits < x.magnitude)

def isInfinite (x : Binary32) : Bool := x.magnitude == infinityBits

def isZero (x : Binary32) : Bool := x.magnitude == 0

/-- The units of a magnitude: the fraction alone below the first exponent, and from there on the
fraction with its leading one, doubled once for each exponent. -/
def unitsOf (magnitude : Nat) : Nat :=
  let exponent := magnitude / 0x800000
  let fraction := magnitude % 0x800000
  if exponent = 0 then fraction else (0x800000 + fraction) * Nat.pow 2 (exponent - 1)

def units (x : Binary32) : Nat := unitsOf x.magnitude

def signedUnits (x : Binary32) : Int :=
  if x.negative then -(x.units : Int) else x.units

/-- What a bit pattern denotes. Both zeros denote zero. -/
inductive Denotation where
  | nan
  | infinite (negative : Bool)
  | finite (units : Int)
deriving DecidableEq, Repr

/-- The exact value of a number. -/
def denotation (x : Binary32) : Denotation :=
  if x.isNaN then .nan else if x.isInfinite then .infinite x.negative else .finite x.signedUnits

/-- The whole number nearest to a quotient, an exact half going to the even one. -/
def roundHalfEven (numerator denominator : Nat) : Nat :=
  let quotient := numerator / denominator
  let twice := 2 * (numerator % denominator)
  if twice < denominator then quotient
  else if denominator < twice then quotient + 1
  else quotient + quotient % 2

/-- The magnitude nearest to `numerator / denominator` units. The quotient is measured in the
spacing of its binade, of which a pattern counts the steps; beyond the last finite pattern the
answer is infinity. -/
def nearest (numerator denominator : Nat) : Nat :=
  let binade := (numerator / denominator).log2 - 23
  min infinityBits (binade * 0x800000 + roundHalfEven numerator (denominator * Nat.pow 2 binade))

/-- The number nearest to a signed quotient of units. -/
def ofQuotient (negative : Bool) (numerator denominator : Nat) : Binary32 :=
  ofParts negative (nearest numerator denominator)

def neg (x : Binary32) : Binary32 := ofParts (!x.negative) x.magnitude

/-- The rounded sum. An exact sum of zero is positive unless both operands are negative. -/
def add (x y : Binary32) : Binary32 :=
  if x.isNaN || y.isNaN then nan
  else if x.isInfinite then
    if y.isInfinite && x.negative != y.negative then nan else x
  else if y.isInfinite then y
  else
    let sum := x.signedUnits + y.signedUnits
    if sum = 0 then zero (x.negative && y.negative)
    else ofQuotient (decide (sum < 0)) sum.natAbs 1

def sub (x y : Binary32) : Binary32 := x.add y.neg

def mul (x y : Binary32) : Binary32 :=
  let sign := x.negative != y.negative
  if x.isNaN || y.isNaN then nan
  else if x.isInfinite || y.isInfinite then
    if x.isZero || y.isZero then nan else infinity sign
  else ofQuotient sign (x.units * y.units) one

def div (x y : Binary32) : Binary32 :=
  let sign := x.negative != y.negative
  if x.isNaN || y.isNaN then nan
  else if x.isInfinite then
    if y.isInfinite then nan else infinity sign
  else if y.isInfinite then zero sign
  else if y.isZero then
    if x.isZero then nan else infinity sign
  else ofQuotient sign (x.units * one) y.units

/-- The largest whole number whose square is at most `n`, one binary digit for each quarter. -/
def floorSqrt (n : Nat) : Nat :=
  if n = 0 then 0
  else
    let root := 2 * floorSqrt (n / 4)
    if (root + 1) * (root + 1) ≤ n then root + 1 else root
termination_by n

/-- The rounded square root. The root of the units is taken in half units, where an inexact root
counts as the odd half, so it is never mistaken for a tie. -/
def sqrt (x : Binary32) : Binary32 :=
  if x.isNaN then nan
  else if x.isZero then x
  else if x.negative then nan
  else if x.isInfinite then x
  else
    let square := x.units * one
    let root := floorSqrt square
    ofQuotient false (if root * root = square then 2 * root else 2 * root + 1) 2

/-- The order of two numbers, or nothing if one of them is not a number. -/
def Denotation.compare : Denotation → Denotation → Option Ordering
  | .nan, _ | _, .nan => none
  | .infinite true, .infinite true | .infinite false, .infinite false => some .eq
  | .infinite true, _ | _, .infinite false => some .lt
  | .infinite false, _ | _, .infinite true => some .gt
  | .finite a, .finite b => some (Ord.compare a b)

/-- Equality of values: what is not a number equals nothing. -/
def Denotation.equals (a b : Denotation) : Bool :=
  a.compare b == some .eq

end Binary32
end Script
