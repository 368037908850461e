import Script.Token

set_option autoImplicit false

/- Operators on values. -/
namespace Script.Operator

open Error (Cause)

def takesNumbers : Token.Kind → Bool
  | .symbol .plus | .symbol .dash | .symbol .star | .symbol .slash
  | .symbol .greater | .symbol .greaterEquals | .symbol .less | .symbol .lessEquals => true
  | _ => false

def onNumbers (operator : Token.Kind) (left right : Number) : Except Cause Value :=
  match operator with
  | .symbol .plus => (left.add right).map .number
  | .symbol .dash => (left.subtract right).map .number
  | .symbol .star => (left.multiply right).map .number
  | .symbol .slash => (left.divide right).map .number
  | _ => (left.relational operator right).map .bool

/-- The result of a binary operator. Equality takes any values, the other operators numbers. -/
def binary (operator : Token) (left right : Value) : Except Cause Value :=
  if operator.kind == .symbol .equals then .ok (.bool (left.equals right))
  else if takesNumbers operator.kind then
    match left.number?, right.number? with
    | some a, some b => onNumbers operator.kind a b
    | _, _ => .error .expectedNumber
  else .error (.unknownOperator operator.lexeme)

def unary (operator : Token) (operand : Value) : Except Cause Value :=
  match operator.kind with
  | .symbol .dash =>
      match operand.number? with
      | some number => .ok (.number number.negate)
      | none => .error .expectedNumber
  | .keyword .notWord => .ok (.bool (!operand.isTruthy))
  | _ => .error (.unknownOperator operator.lexeme)

/-- A member of a value: texts know their length in characters. -/
def member (target : Value) (name : String) : Except Cause Value :=
  match target, name with
  | .string text, "length" => .ok (.number (.int (Int32.ofNat text.length)))
  | _, _ => .error (.undefinedMember name target.typeName)

end Script.Operator
