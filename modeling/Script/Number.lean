import Script.Binary32.Decimal
import Script.Binary64
import Script.Error
import Script.Token.Kind

set_option autoImplicit false

/- Numbers of the language. Integers have 32 bits and wrap around; they never mix with floats in
arithmetic or order. Equality alone compares across the two kinds, in double precision. -/
namespace Script

inductive Number where
  | int (value : Int32)
  | float (value : Binary32)
deriving DecidableEq, Repr

namespace Number

open Error (Cause)

def typeName : Number → String
  | int _ => "Int"
  | float _ => "Float"

/-- The number in double precision, where the two kinds meet. -/
def widened : Number → Binary64
  | int value => .ofInt32 value
  | float value => .ofBinary32 value

/-- Equality, also across kinds. -/
def equals (a b : Number) : Bool := a.widened.equals b.widened

def negate : Number → Number
  | int value => int (-value)
  | float value => float value.neg

def add : Number → Number → Except Cause Number
  | int a, int b => .ok (int (a + b))
  | float a, float b => .ok (float (a.add b))
  | _, _ => .error .mismatchedNumberTypes

def subtract : Number → Number → Except Cause Number
  | int a, int b => .ok (int (a - b))
  | float a, float b => .ok (float (a.sub b))
  | _, _ => .error .mismatchedNumberTypes

def multiply : Number → Number → Except Cause Number
  | int a, int b => .ok (int (a * b))
  | float a, float b => .ok (float (a.mul b))
  | _, _ => .error .mismatchedNumberTypes

/-- Integer division drops the fraction and has no answer for a zero divisor. -/
def divide : Number → Number → Except Cause Number
  | int a, int b => if b = 0 then .error .divisionByZero else .ok (int (a / b))
  | float a, float b => .ok (float (a.div b))
  | _, _ => .error .mismatchedNumberTypes

/-- The order of two numbers of one kind, or nothing if one is not a number. -/
def compare : Number → Number → Except Cause (Option Ordering)
  | int a, int b => .ok (some (Ord.compare a.toInt b.toInt))
  | float a, float b => .ok (a.denotation.compare b.denotation)
  | _, _ => .error .mismatchedNumberTypes

/-- Whether an order satisfies a relational operator; other kinds are no such operator. -/
def orderHolds? : Token.Kind → Ordering → Option Bool
  | .symbol .greater, order => some (order == .gt)
  | .symbol .greaterEquals, order => some (order != .lt)
  | .symbol .less, order => some (order == .lt)
  | .symbol .lessEquals, order => some (order != .gt)
  | _, _ => none

/-- Applies a relational operator. Unordered numbers satisfy none, whatever the operator. -/
def relational (operator : Token.Kind) (a b : Number) : Except Cause Bool :=
  match a.compare b with
  | .error cause => .error cause
  | .ok none => .ok false
  | .ok (some order) =>
      match orderHolds? operator order with
      | some holds => .ok holds
      | none => .error (.unknownOperator operator.describe)

def display : Number → String
  | int value => toString value.toInt
  | float value => value.display

end Number
end Script
