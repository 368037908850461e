set_option autoImplicit false

/- Types of the values that cross to host functions. -/
namespace Script

/-- The type of a host function's parameter or result. -/
inductive NativeType where
  | int
  | float
  | bool
  | char
  | string
  | function
  | array (element : NativeType)
deriving DecidableEq, Repr

namespace NativeType

/-- A type as messages show it; an array is written in front of its element type. -/
def text : NativeType → String
  | int => "Int"
  | float => "Float"
  | bool => "Bool"
  | char => "Char"
  | string => "String"
  | function => "Function"
  | array element => "[]" ++ element.text

/-- A type as listings show it; an array is written as applied to its element type. -/
def listing : NativeType → String
  | array element => "Array(" ++ element.listing ++ ")"
  | other => other.text

end NativeType
end Script
