import Script.Native.Value

set_option autoImplicit false

/- Host functions by name. A call is checked against the declared parameters before the host
function runs, and what the host function prints is part of its reply. -/
namespace Script

/-- What a host function answers: the lines it printed, and a value or a message. -/
structure Reply where
  printed : List String
  result : Except String NativeValue

abbrev HostFunction := List NativeValue → Reply

/-- A host function with its name and its types. -/
structure NativeFunction where
  name : String
  parameters : List NativeType
  /-- Nothing for a function without a result. -/
  returns : Option NativeType
  host : HostFunction

namespace NativeFunction

/-- A host function on one line. -/
def listing (function : NativeFunction) : String :=
  "NativeFunction \x7b name: " ++ Text.quoted function.name ++ ", parameters: [" ++
    ", ".intercalate (function.parameters.map NativeType.listing) ++ "], return_type: " ++
    (match function.returns with
      | some type => "Some(" ++ type.listing ++ ")"
      | none => "None") ++ " \x7d"

end NativeFunction

namespace HostFunction

def give (value : NativeValue) : Reply := ⟨[], .ok value⟩

def refuse (message : String) : Reply := ⟨[], .error message⟩

def print : HostFunction
  | [.string message] => ⟨[message], .ok .void⟩
  | _ => refuse "expected a single string"

def squareRoot : HostFunction
  | [.float value] => give (.float value.sqrt)
  | _ => refuse "expected a single float"

/-- The texts of an array, which must hold nothing else. -/
def texts : List NativeValue → Except String (List String)
  | [] => .ok []
  | .string text :: rest => (texts rest).map (text :: ·)
  | other :: _ => .error ("cannot join a " ++ other.typeName)

def join : HostFunction
  | [.array items, .string separator] =>
      ⟨[], (texts items).map fun parts => .string (separator.intercalate parts)⟩
  | _ => refuse "expected a string array and a separator"

def charToText : HostFunction
  | [.char character] => give (.string character.toString)
  | _ => refuse "expected a single character"

end HostFunction

/-- What a call gives: whether the host function ran, what it printed, and the result. -/
structure Invocation where
  started : Bool
  printed : List String
  result : Except CallError NativeValue

/-- Host functions with different names. -/
structure Registry where
  functions : List NativeFunction

namespace Registry

def empty : Registry := ⟨[]⟩

/-- Adds a function in place of an earlier one of its name. -/
def register (registry : Registry) (function : NativeFunction) : Registry :=
  ⟨function :: registry.functions.filter fun other => other.name != function.name⟩

def get? (registry : Registry) (name : String) : Option NativeFunction :=
  registry.functions.find? fun function => function.name == name

def standard : Registry :=
  ⟨[⟨"Print", [.string], none, HostFunction.print⟩,
    ⟨"Sqrt", [.float], some .float, HostFunction.squareRoot⟩,
    ⟨"Join", [.array .string, .string], some .string, HostFunction.join⟩,
    ⟨"ToString", [.char], some .string, HostFunction.charToText⟩]⟩

/-- The first argument that does not fit its parameter, with its index counted from `index`. -/
def firstMisfit? (index : Nat) :
    List NativeValue → List NativeType → Option (Nat × NativeType × NativeValue)
  | argument :: arguments, expected :: parameters =>
      if argument.fits expected then firstMisfit? (index + 1) arguments parameters
      else some (index, expected, argument)
  | _, _ => none

/-- The function of a name, if the arguments are right for it. -/
def resolve (registry : Registry) (name : String) (arguments : List NativeValue) :
    Except CallError NativeFunction :=
  match registry.get? name with
  | none => .error (.notFound name)
  | some function =>
      if function.parameters.length ≠ arguments.length then
        .error (.arityMismatch name function.parameters.length arguments.length)
      else match firstMisfit? 0 arguments function.parameters with
        | some (index, expected, actual) =>
            .error (.argumentType name index expected actual.typeName)
        | none => .ok function

def call (registry : Registry) (name : String) (arguments : List NativeValue) : Invocation :=
  match registry.resolve name arguments with
  | .error error => ⟨false, [], .error error⟩
  | .ok function =>
      let reply := function.host arguments
      ⟨true, reply.printed, reply.result.mapError (.invocationFailed name)⟩

end Registry
end Script
