import Script.Token

set_option autoImplicit false

/- The tree of a program. Every node keeps the tokens it was read from, so its place and its text
can be told from the tree alone. -/
namespace Script

/-- A type annotation: a name, an array of a named type, or a map to one, each of which may be
marked as optional. -/
inductive TypeExpr where
  | named (name : Token) (optional : Bool)
  | array (name : Token) (optional : Bool)
  | map (key : TypeExpr) (name : Token) (optional : Bool)
deriving DecidableEq, Repr

namespace TypeExpr

/-- The token that names the type itself, its elements or its values. -/
def name : TypeExpr → Token
  | named name _ | array name _ | map _ name _ => name

def isOptional : TypeExpr → Bool
  | named _ optional | array _ optional | map _ _ optional => optional

def key? : TypeExpr → Option TypeExpr
  | map key _ _ => some key
  | _ => none

def isArray : TypeExpr → Bool
  | array _ _ => true
  | _ => false

end TypeExpr

structure Parameter where
  name : Token
  type : Option TypeExpr
deriving DecidableEq, Repr

/-- What a function declaration says before its body. -/
structure Signature where
  name : Token
  specifiers : List TypeExpr
  parameters : List Parameter
  effects : List TypeExpr
  returns : TypeExpr
deriving DecidableEq, Repr

def Signature.hasSpecifier (signature : Signature) (specifier : String) : Bool :=
  signature.specifiers.any fun type => type.name.lexeme == specifier

/-- What a variable declaration says before its initializer. Without a type, the type is that of
the initializer. -/
structure VariableHead where
  name : Token
  specifiers : List TypeExpr
  type : Option TypeExpr
  mutable : Bool
deriving DecidableEq, Repr

mutual

inductive Expr where
  /-- Two branches, of which an absent second one is empty. -/
  | conditional (condition : Expr) (thenBranch elseBranch : List Stmt)
  | assign (target : Token) (value : Expr)
  | binary (left : Expr) (operator : Token) (right : Expr)
  | unary (operator : Token) (operand : Expr)
  | grouping (inner : Expr)
  | literal (value : Value) (position : Position)
  | name (token : Token)
  | call (callee : Expr) (arguments : List Expr)
  | member (target : Expr) (member : Token)

inductive Stmt where
  /-- A function, which has no body if it is only announced. -/
  | functionDecl (signature : Signature) (body : Option (List Stmt))
  | variableDecl (head : VariableHead) (initializer : Expr)
  | block (body : List Stmt)
  | expression (expr : Expr)

end

/-- Where an expression is placed: at its leftmost token, save that parentheses and `if` are
placed at what they hold. -/
def Expr.position : Expr → Position
  | conditional condition _ _ => condition.position
  | assign target _ => target.position
  | binary left _ _ => left.position
  | unary operator _ => operator.position
  | grouping inner => inner.position
  | literal _ position => position
  | name token => token.position
  | call callee _ => callee.position
  | member target _ => target.position

/-- The signature of a function declaration of the given name. -/
def Stmt.declares? (function : String) : Stmt → Option Signature
  | functionDecl signature _ => if signature.name.lexeme == function then some signature else none
  | _ => none

/-- The first declaration of a function among statements. -/
def findFunction (statements : List Stmt) (name : String) : Option Signature :=
  statements.findSome? (Stmt.declares? name)

end Script
