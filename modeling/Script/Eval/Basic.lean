import Script.Environment
import Script.Native.Registry
import Script.Traced
import Script.Tree

set_option autoImplicit false

/- Runs and the steps they are made of. A run changes an environment, traces what happens, and
may fail with an error at a position. -/
namespace Script

/-- What happens in a run, apart from its outcome. -/
inductive Eval.Event where
  /-- A program of so many statements begins. -/
  | starting (count : Nat)
  /-- A statement of the program begins. -/
  | executing (stmt : Stmt)
  /-- The program has come to its end. -/
  | finished
  /-- A host function is called with so many arguments. -/
  | calling (name : String) (count : Nat)
  /-- A line is printed. -/
  | printed (line : String)

/-- A run of a phrase. -/
abbrev Eval := Traced Environment Eval.Event Error

/-- What a phrase is run against: the statements among which functions are found, and the host
functions. -/
structure Context where
  program : List Stmt
  natives : Registry := .standard

namespace Eval

def raise {α : Type} (position : Position) (cause : Error.Cause) : Eval α :=
  Traced.fail { cause, position }

/-- Takes over an outcome, whose error belongs to a position. -/
def lift {α : Type} (position : Position) (outcome : Except Error.Cause α) : Eval α :=
  Traced.ofExcept (outcome.mapError fun cause => { cause, position })

/-- Runs in a new scope, which is dropped at the end in any case. -/
def inNewScope {α : Type} (action : Eval α) : Eval α := fun environment =>
  let done := action environment.enter
  ⟨done.outcome, done.state.leave, done.trace⟩

/-- Changes the environment, or fails at a position. -/
def update (position : Position) (change : Environment → Except Error.Cause Environment) :
    Eval Unit := do
  let environment ← lift position (change (← Traced.get))
  Traced.modify fun _ => environment

/-- The value that a variable holds. -/
def heldBy? (name : String) : Eval (Option Value) :=
  Traced.gets fun environment => (environment.get? name).map Binding.value

def printAll : List String → Eval Unit
  | [] => pure ()
  | line :: rest => do
      Traced.emit (.printed line)
      printAll rest

/-- Calls a host function; errors of the call belong to the position. -/
def callNative (natives : Registry) (name : String) (arguments : List NativeValue)
    (position : Position) : Eval (Option Value) := do
  let invocation := natives.call name arguments
  if invocation.started then
    Traced.emit (.calling name arguments.length)
  printAll invocation.printed
  let result ← lift position (invocation.result.mapError .nativeCall)
  lift position result.toValue

/-- The function that a call means: a variable that holds a function stands for that function,
any other name for itself. Only functions of the host can be called. -/
def resolveCallee (program : List Stmt) (callee : Expr) : Eval Signature :=
  match callee with
  | .name token => do
      let function ← match ← heldBy? token.lexeme with
        | some (.function function) => pure function
        | some _ => raise token.position .notCallable
        | none => pure token.lexeme
      match findFunction program function with
      | none => raise token.position (.undefinedFunction function)
      | some signature =>
          if signature.hasSpecifier "native" then
            return signature
          else
            raise token.position
              (.notImplemented ("Calling non-native function '" ++ function ++ "'"))
  | other => raise other.position .notCallable

/-- The value of a name: that of a variable, else the function of the name. -/
def nameValue (program : List Stmt) (token : Token) : Eval (Option Value) := do
  match ← heldBy? token.lexeme with
  | some value => return some value
  | none =>
      if (findFunction program token.lexeme).isSome then
        return some (.function token.lexeme)
      else
        raise token.position (.variableNotDeclared token.lexeme)

end Eval

end Script
