import Script.Binary32

set_option autoImplicit false

/- Double precision numbers as bit patterns, as far as they are needed to compare numbers of two
kinds: integers and single precision numbers are widened to them. Every finite value is a whole
number of units of 2^-1074, and a widening is rounded once, as in single precision. -/
namespace Script

/-- A number given by its 64 bits: sign, eleven bits of exponent, 52 bits of fraction. -/
structure Binary64 where
  bits : UInt64
deriving DecidableEq, Repr

namespace Binary64

open Binary32 (roundHalfEven)

/-- The pattern of infinity without its sign; every larger one is not a number. -/
def infinityBits : Nat := 0x7ff0000000000000

def negative (x : Binary64) : Bool := decide (0x8000000000000000 ≤ x.bits.toNat)

def magnitude (x : Binary64) : Nat := x.bits.toNat % 0x8000000000000000

def ofParts (negative : Bool) (magnitude : Nat) : Binary64 :=
  ⟨UInt64.ofNat (if negative then 0x8000000000000000 + magnitude else magnitude)⟩

/-- What a pattern that is not a number is widened to. -/
def nan : Binary64 := ⟨0x7ff8000000000000⟩

def infinity (negative : Bool) : Binary64 := ofParts negative infinityBits

/-- The units of a magnitude: the fraction alone below the first exponent, and from there on the
fraction with its leading one, doubled once for each exponent. -/
def unitsOf (magnitude : Nat) : Nat :=
  let exponent := magnitude / 0x10000000000000
  let fraction := magnitude % 0x10000000000000
  if exponent = 0 then fraction else (0x10000000000000 + fraction) * Nat.pow 2 (exponent - 1)

def denotation (x : Binary64) : Binary32.Denotation :=
  if infinityBits < x.magnitude then .nan
  else if x.magnitude = infinityBits then .infinite x.negative
  else .finite (if x.negative then -(unitsOf x.magnitude : Int) else unitsOf x.magnitude)

/-- The magnitude nearest to a number of units, which is measured in the spacing of its binade. -/
def nearest (units : Nat) : Nat :=
  let binade := units.log2 - 52
  min infinityBits (binade * 0x10000000000000 + roundHalfEven units (Nat.pow 2 binade))

/-- How many binary places a unit stands further behind the point than one of single precision. -/
def further : Nat := 925

/-- The number nearest to a signed number of units of single precision. -/
def ofUnits (negative : Bool) (units : Nat) : Binary64 :=
  ofParts negative (nearest (units <<< further))

def ofInt32 (value : Int32) : Binary64 :=
  ofUnits (decide (value.toInt < 0)) (value.toInt.natAbs * Binary32.one)

def ofBinary32 (x : Binary32) : Binary64 :=
  if x.isNaN then nan
  else if x.isInfinite then infinity x.negative
  else ofUnits x.negative x.units

/-- Equality of values: what is not a number equals nothing, and both zeros are equal. -/
def equals (x y : Binary64) : Bool := x.denotation.equals y.denotation

end Binary64
end Script
