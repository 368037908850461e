import Script.Value

set_option autoImplicit false

/- Scopes and the variables in them. A name means its innermost binding; declarations go to the
innermost scope, and assignments change the innermost binding of a name and nothing else. -/
namespace Script

structure Binding where
  mutable : Bool
  value : Value
deriving DecidableEq, Repr

/-- The bindings of one scope, the latest first. -/
abbrev Scope := List (String × Binding)

namespace Scope

/-- Changes the value of the first binding of a name. -/
def setValue (name : String) (value : Value) : Scope → Scope
  | [] => []
  | (key, binding) :: rest =>
      if name == key then (key, { binding with value }) :: rest
      else (key, binding) :: setValue name value rest

end Scope

/-- A chain of scopes. -/
inductive Environment where
  | outermost (scope : Scope)
  | within (scope : Scope) (enclosing : Environment)
deriving Repr

namespace Environment

open Error (Cause)

def empty : Environment := outermost []

def innermost : Environment → Scope
  | outermost scope | within scope _ => scope

def withInnermost (scope : Scope) : Environment → Environment
  | outermost _ => outermost scope
  | within _ enclosing => within scope enclosing

def depth : Environment → Nat
  | outermost _ => 1
  | within _ enclosing => enclosing.depth + 1

def enter (environment : Environment) : Environment := within [] environment

/-- The environment around the innermost scope, if there is one. -/
def parent? : Environment → Option Environment
  | outermost _ => none
  | within _ enclosing => some enclosing

/-- Drops the innermost scope, unless it is the only one. -/
def leave (environment : Environment) : Environment := environment.parent?.getD environment

/-- The innermost binding of a name. -/
def get? (name : String) : Environment → Option Binding
  | outermost scope => scope.lookup name
  | within scope enclosing => (scope.lookup name).or (enclosing.get? name)

/-- Binds a name in the innermost scope, which must not bind it yet. -/
def declare (environment : Environment) (name : String) (value : Value) (mutable : Bool) :
    Except Cause Environment :=
  if (environment.innermost.lookup name).isSome then .error (.variableAlreadyDeclared name)
  else .ok (environment.withInnermost ((name, ⟨mutable, value⟩) :: environment.innermost))

/-- Changes the value of the innermost binding of a name, which must be mutable. -/
def assign (name : String) (value : Value) : Environment → Except Cause Environment
  | outermost scope =>
      match scope.lookup name with
      | some binding =>
          if binding.mutable then .ok (outermost (scope.setValue name value))
          else .error (.assignToImmutable name)
      | none => .error (.variableNotDeclared name)
  | within scope enclosing =>
      match scope.lookup name with
      | some binding =>
          if binding.mutable then .ok (within (scope.setValue name value) enclosing)
          else .error (.assignToImmutable name)
      | none => (enclosing.assign name value).map (within scope)

end Environment
end Script
