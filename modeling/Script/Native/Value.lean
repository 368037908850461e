import Script.Native.Type
import Script.Value

set_option autoImplicit false

/- Values as host functions see them. -/
namespace Script

/-- A value on the host's side. Beside the values of the language there are characters, arrays and
the absence of a value. -/
inductive NativeValue where
  | int (value : Int32)
  | float (value : Binary32)
  | bool (value : Bool)
  | char (value : Char)
  | string (text : String)
  | array (items : List NativeValue)
  | function (name : String)
  | void

namespace NativeValue

/-- The name of a value's type. An array is named after its first item. -/
def typeName : NativeValue → String
  | int _ => "Int"
  | float _ => "Float"
  | bool _ => "Bool"
  | char _ => "Char"
  | string _ => "String"
  | array [] => "[]"
  | array (item :: _) => "[]" ++ item.typeName
  | function _ => "Function"
  | void => "void"

mutual

/-- A value can be passed where a type is asked for. Every item of an array has to fit, so an
empty one fits every array type. -/
def fits : NativeValue → NativeType → Bool
  | int _, .int => true
  | float _, .float => true
  | bool _, .bool => true
  | char _, .char => true
  | string _, .string => true
  | function _, .function => true
  | array items, .array element => allFit items element
  | _, _ => false

/-- All values can be passed where a type is asked for. -/
def allFit : List NativeValue → NativeType → Bool
  | [], _ => true
  | item :: rest, type => item.fits type && allFit rest type

end

def ofValue : Value → NativeValue
  | .bool value => bool value
  | .string text => string text
  | .number (.int value) => int value
  | .number (.float value) => float value
  | .function name => function name

/-- A host's value for the language. A character becomes a text; arrays have no counterpart. -/
def toValue : NativeValue → Except Error.Cause (Option Value)
  | int value => .ok (some (.number (.int value)))
  | float value => .ok (some (.number (.float value)))
  | bool value => .ok (some (.bool value))
  | char value => .ok (some (.string value.toString))
  | string text => .ok (some (.string text))
  | function name => .ok (some (.function name))
  | void => .ok none
  | array _ => .error (.notImplemented "Array values")

end NativeValue
end Script
