import Script.Native.Type
import Script.Position
import Script.Text.Quoted

set_option autoImplicit false

/- Faults of a program: what went wrong, where, and in which phrase. The wording of every
message stands here, and a message is a function of the cause alone. -/
namespace Script

/-- Why the registry refuses a call, or what a host function answered. -/
inductive CallError where
  | notFound (name : String)
  | arityMismatch (name : String) (expected received : Nat)
  | argumentType (name : String) (index : Nat) (expected : NativeType) (actual : String)
  | invocationFailed (name message : String)
deriving DecidableEq, Repr

def CallError.message : CallError → String
  | notFound name => "Native method " ++ name ++ " not found"
  | arityMismatch name expected _ =>
      "Native method " ++ name ++ " requires " ++ toString expected ++ " arguments"
  | argumentType name index expected actual =>
      "Native method " ++ name ++ " requires argument " ++ toString index ++ " to be of type " ++
        expected.text ++ ", but got " ++ actual
  | invocationFailed name message => "Calling native method " ++ name ++ " failed: " ++ message

namespace Error

/-- The three families of faults: of the text, of a run, and of the program's own parts. -/
inductive Category where
  | ofSyntax
  | ofRuntime
  | ofInternals
deriving DecidableEq, Repr

inductive Cause where
  | unexpectedCharacter (character : Char)
  | unterminatedString
  | numberParse (digits : String)
  | unexpectedToken (message : String)
  | missingMutableType
  | tooManyArguments
  | expectedNumber
  | mismatchedNumberTypes
  | divisionByZero
  | expectedValue
  | variableNotDeclared (name : String)
  | assignToImmutable (name : String)
  | undefinedFunction (name : String)
  | notCallable
  | undefinedMember (member owner : String)
  | nativeCall (error : CallError)
  | notImplemented (feature : String)
  | variableAlreadyDeclared (name : String)
  | unknownOperator (operator : String)
  | nestedCheckpoint
deriving DecidableEq, Repr

namespace Cause

def category : Cause → Category
  | unexpectedCharacter _ | unterminatedString | numberParse _ | unexpectedToken _
  | missingMutableType | tooManyArguments => .ofSyntax
  | expectedNumber | mismatchedNumberTypes | divisionByZero | expectedValue
  | variableNotDeclared _ | assignToImmutable _ | undefinedFunction _ | notCallable
  | undefinedMember _ _ | nativeCall _ | notImplemented _ => .ofRuntime
  | variableAlreadyDeclared _ | unknownOperator _ | nestedCheckpoint => .ofInternals

/-- The heading of a diagnostic. -/
def name : Cause → String
  | unexpectedCharacter _ => "UnexpectedCharacter"
  | unterminatedString => "UnterminatedString"
  | numberParse _ => "NumberParseError"
  | unexpectedToken _ => "UnexpectedToken"
  | missingMutableType => "MissingMutableType"
  | tooManyArguments => "TooManyArguments"
  | expectedNumber => "ExpectedNumber"
  | mismatchedNumberTypes => "MismatchedNumberTypes"
  | divisionByZero => "DivisionByZero"
  | expectedValue => "ExpectedValue"
  | variableNotDeclared _ => "VariableNotDeclared"
  | assignToImmutable _ => "AssignToImmutable"
  | undefinedFunction _ => "UndefinedFunction"
  | notCallable => "NotCallable"
  | undefinedMember _ _ => "UndefinedMember"
  | nativeCall _ => "NativeCall"
  | notImplemented _ => "NotImplementedError"
  | variableAlreadyDeclared _ => "VariableAlreadyDeclared"
  | unknownOperator _ => "UnknownOperator"
  | nestedCheckpoint => "NestedCheckpoint"

def message : Cause → String
  | unexpectedCharacter character => "Unexpected character: '" ++ character.toString ++ "'"
  | unterminatedString => "Unterminated string"
  | numberParse digits => "error parsing number: " ++ Text.quoted digits
  | unexpectedToken message => message
  | missingMutableType => "Missing type for `var` definition"
  | tooManyArguments => "Cannot have more than 255 arguments"
  | expectedNumber => "Expected numbers"
  | mismatchedNumberTypes => "Cannot operate on different types"
  | divisionByZero => "Division by zero"
  | expectedValue => "Expression does not produce a value"
  | variableNotDeclared name => "Undefined variable '" ++ name ++ "'."
  | assignToImmutable name => "Cannot assign to immutable variable '" ++ name ++ "'."
  | undefinedFunction name => "Undefined function '" ++ name ++ "'."
  | notCallable => "Can only call functions"
  | undefinedMember member owner => "Undefined member '" ++ member ++ "' on " ++ owner
  | nativeCall error => error.message
  | notImplemented feature => feature ++ " is not implemented"
  | variableAlreadyDeclared name => "Variable '" ++ name ++ "' already defined."
  | unknownOperator operator => "Unknown operator: " ++ operator
  | nestedCheckpoint => "only one backtrack checkpoint may be live at a time"

/-- Advice shown beside the heading, for the causes that have any. -/
def tip? : Cause → Option String
  | unterminatedString => some "String is missing its closing `\"`"
  | numberParse digits =>
      some ("Invalid number: `" ++ digits ++ "`, is it above the integer limit?")
  | unexpectedToken message => some message
  | missingMutableType =>
      some "Mutable variables need an explicit type, e.g. `var x : Int = 0`"
  | tooManyArguments => some "Calls are limited to 255 arguments"
  | mismatchedNumberTypes => some "Integers and floats are never converted implicitly"
  | variableNotDeclared name => some ("Variable `" ++ name ++ "` not declared")
  | assignToImmutable name => some ("Declare `" ++ name ++ "` with `var` to make it mutable")
  | undefinedFunction name => some ("Function `" ++ name ++ "` not declared")
  | notImplemented _ =>
      some "This feature is expected to be handled, but has not yet been implemented"
  | variableAlreadyDeclared name => some ("Variable `" ++ name ++ "` already declared")
  | _ => none

end Cause
end Error

/-- A fault with its place and, if one is known, the phrase it arose in. -/
structure Error where
  cause : Error.Cause
  position : Position
  context : Option String := none
deriving DecidableEq, Repr

namespace Error

/-- Names the phrase of a fault; a phrase that is named already stays. -/
def withContext (error : Error) (context : String) : Error :=
  { error with context := error.context.or (some context) }

/-- One line for a fault: a fault of the text shows its place, any other its phrase. -/
def display (error : Error) : String :=
  let context := error.context.getD "<unknown>"
  match error.cause.category with
  | .ofSyntax =>
      "[line " ++ toString error.position.line ++ ", column " ++ toString error.position.column ++
        "] Syntax Error: " ++ error.cause.message
  | .ofRuntime => "Runtime error at " ++ context ++ ": " ++ error.cause.message
  | .ofInternals => "Internal error interpreting " ++ context ++ ": " ++ error.cause.message

end Error
end Script
