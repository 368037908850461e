import Script.Tree

set_option autoImplicit false

/- The text of a tree. Operators stand in parentheses, a grouping is marked as such, and each
statement of a block has a line of its own. -/
namespace Script

/-- The mark behind an optional type. -/
def optionalMark (optional : Bool) : String := if optional then "?" else ""

def TypeExpr.print : TypeExpr → String
  | named name optional => name.lexeme ++ optionalMark optional
  | array name optional => "[]" ++ name.lexeme ++ optionalMark optional
  | map key name optional => "[" ++ key.print ++ "]" ++ name.lexeme ++ optionalMark optional

def Parameter.print (parameter : Parameter) : String :=
  match parameter.type with
  | some type => parameter.name.lexeme ++ " : " ++ type.print
  | none => parameter.name.lexeme

/-- Specifiers as text, each in angle brackets of its own. -/
def printSpecifiers (specifiers : List TypeExpr) : String :=
  String.join (specifiers.map fun specifier => "<" ++ specifier.print ++ ">")

def Signature.print (signature : Signature) : String :=
  signature.name.lexeme ++ printSpecifiers signature.specifiers ++
    "(" ++ ", ".intercalate (signature.parameters.map Parameter.print) ++ ")" ++
    printSpecifiers signature.effects ++ " : " ++ signature.returns.print

def VariableHead.print (head : VariableHead) : String :=
  (if head.mutable then "var " else "") ++ head.name.lexeme ++ printSpecifiers head.specifiers ++
    match head.type with
    | some type => " : " ++ type.print ++ " = "
    | none => " := "

/-- A literal as text; strings are shown in quotes. -/
def printLiteral : Value → String
  | .string text => "\"" ++ text ++ "\""
  | value => value.display

def braced (lines : String) : String := "\x7b\n" ++ lines ++ "\x7d"

mutual

def Expr.print : Expr → String
  | .conditional condition thenBranch elseBranch =>
      "if (" ++ condition.print ++ ") " ++ braced (printLines thenBranch) ++
        if elseBranch.isEmpty then "" else " else " ++ braced (printLines elseBranch)
  | .assign target value => target.lexeme ++ " = " ++ value.print
  | .binary left operator right =>
      "(" ++ left.print ++ " " ++ operator.lexeme ++ " " ++ right.print ++ ")"
  | .unary operator operand => operator.lexeme ++ operand.print
  | .grouping inner => "(group " ++ inner.print ++ ")"
  | .literal value _ => printLiteral value
  | .name token => token.lexeme
  | .call callee arguments => callee.print ++ "(" ++ ", ".intercalate (printEach arguments) ++ ")"
  | .member target member => target.print ++ "." ++ member.lexeme

def Stmt.print : Stmt → String
  | .functionDecl signature none => signature.print
  | .functionDecl signature (some body) => signature.print ++ " " ++ braced (printLines body)
  | .variableDecl head initializer => head.print ++ initializer.print
  | .block body => braced (printLines body)
  | .expression expr => expr.print

/-- Statements as text, each ended by a line feed. -/
def printLines : List Stmt → String
  | [] => ""
  | stmt :: rest => stmt.print ++ "\n" ++ printLines rest

def printEach : List Expr → List String
  | [] => []
  | expr :: rest => expr.print :: printEach rest

end

end Script
