import Script.Number

set_option autoImplicit false

/- Values that expressions produce and variables hold. -/
namespace Script

/-- A value; a function is known by its name. -/
inductive Value where
  | bool (value : Bool)
  | string (text : String)
  | number (value : Number)
  | function (name : String)
deriving DecidableEq, Repr

namespace Value

def typeName : Value → String
  | bool _ => "Bool"
  | string _ => "String"
  | number value => value.typeName
  | function _ => "Function"

/-- Only `true` is taken for true. -/
def isTruthy : Value → Bool
  | bool true => true
  | _ => false

def number? : Value → Option Number
  | number value => some value
  | _ => none

/-- The equality of the language; values of different sorts differ. -/
def equals : Value → Value → Bool
  | bool a, bool b => a == b
  | string a, string b => a == b
  | number a, number b => a.equals b
  | function a, function b => a == b
  | _, _ => false

def display : Value → String
  | bool true => "true"
  | bool false => "false"
  | string text => text
  | number value => value.display
  | function name => "<fn " ++ name ++ ">"

end Value
end Script
