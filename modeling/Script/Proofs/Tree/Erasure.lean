import Script.Tree

set_option autoImplicit false

/- Trees without what printing cannot show: the places of tokens, and parentheses that do nothing
but group. -/
namespace Script

def Token.unplaced (token : Token) : Token := { token with position := .null }

def TypeExpr.unplaced : TypeExpr → TypeExpr
  | named name optional => named name.unplaced optional
  | array name optional => array name.unplaced optional
  | map key name optional => map key.unplaced name.unplaced optional

def Parameter.unplaced (parameter : Parameter) : Parameter :=
  ⟨parameter.name.unplaced, parameter.type.map TypeExpr.unplaced⟩

def Signature.unplaced (signature : Signature) : Signature where
  name := signature.name.unplaced
  specifiers := signature.specifiers.map TypeExpr.unplaced
  parameters := signature.parameters.map Parameter.unplaced
  effects := signature.effects.map TypeExpr.unplaced
  returns := signature.returns.unplaced

def VariableHead.unplaced (head : VariableHead) : VariableHead where
  name := head.name.unplaced
  specifiers := head.specifiers.map TypeExpr.unplaced
  type := head.type.map TypeExpr.unplaced
  mutable := head.mutable

mutual

/-- An expression whose tokens and literals are in no place. -/
def Expr.unplaced : Expr → Expr
  | .conditional condition thenBranch elseBranch =>
      .conditional condition.unplaced (stmtsUnplaced thenBranch) (stmtsUnplaced elseBranch)
  | .assign target value => .assign target.unplaced value.unplaced
  | .binary left operator right => .binary left.unplaced operator.unplaced right.unplaced
  | .unary operator operand => .unary operator.unplaced operand.unplaced
  | .grouping inner => .grouping inner.unplaced
  | .literal value _ => .literal value .null
  | .name token => .name token.unplaced
  | .call callee arguments => .call callee.unplaced (exprsUnplaced arguments)
  | .member target member => .member target.unplaced member.unplaced

def Stmt.unplaced : Stmt → Stmt
  | .functionDecl signature none => .functionDecl signature.unplaced none
  | .functionDecl signature (some body) =>
      .functionDecl signature.unplaced (some (stmtsUnplaced body))
  | .variableDecl head initializer => .variableDecl head.unplaced initializer.unplaced
  | .block body => .block (stmtsUnplaced body)
  | .expression expr => .expression expr.unplaced

def stmtsUnplaced : List Stmt → List Stmt
  | [] => []
  | stmt :: rest => stmt.unplaced :: stmtsUnplaced rest

def exprsUnplaced : List Expr → List Expr
  | [] => []
  | expr :: rest => expr.unplaced :: exprsUnplaced rest

end

mutual

/-- An expression in which every grouping is replaced by what it holds. -/
def Expr.ungrouped : Expr → Expr
  | .conditional condition thenBranch elseBranch =>
      .conditional condition.ungrouped (stmtsUngrouped thenBranch) (stmtsUngrouped elseBranch)
  | .assign target value => .assign target value.ungrouped
  | .binary left operator right => .binary left.ungrouped operator right.ungrouped
  | .unary operator operand => .unary operator operand.ungrouped
  | .grouping inner => inner.ungrouped
  | .literal value position => .literal value position
  | .name token => .name token
  | .call callee arguments => .call callee.ungrouped (exprsUngrouped arguments)
  | .member target member => .member target.ungrouped member

def Stmt.ungrouped : Stmt → Stmt
  | .functionDecl signature none => .functionDecl signature none
  | .functionDecl signature (some body) => .functionDecl signature (some (stmtsUngrouped body))
  | .variableDecl head initializer => .variableDecl head initializer.ungrouped
  | .block body => .block (stmtsUngrouped body)
  | .expression expr => .expression expr.ungrouped

def stmtsUngrouped : List Stmt → List Stmt
  | [] => []
  | stmt :: rest => stmt.ungrouped :: stmtsUngrouped rest

def exprsUngrouped : List Expr → List Expr
  | [] => []
  | expr :: rest => expr.ungrouped :: exprsUngrouped rest

end

/-- A value that is written as it was read. -/
def Value.isPlain : Value → Bool
  | .number (.float _) => false
  | _ => true

mutual

/-- An expression without a grouping, `not`, a float, a block or the body of a function anywhere in
it. -/
def Expr.isPlain : Expr → Bool
  | .conditional condition thenBranch elseBranch =>
      condition.isPlain && stmtsPlain thenBranch && stmtsPlain elseBranch
  | .assign _ value => value.isPlain
  | .binary left _ right => left.isPlain && right.isPlain
  | .unary operator operand => operator.kind != .keyword .notWord && operand.isPlain
  | .grouping _ => false
  | .literal value _ => value.isPlain
  | .name _ => true
  | .call callee arguments => callee.isPlain && exprsPlain arguments
  | .member target _ => target.isPlain

def Stmt.isPlain : Stmt → Bool
  | .functionDecl _ body => body.isNone
  | .variableDecl _ initializer => initializer.isPlain
  | .block _ => false
  | .expression expr => expr.isPlain

def stmtsPlain : List Stmt → Bool
  | [] => true
  | stmt :: rest => stmt.isPlain && stmtsPlain rest

def exprsPlain : List Expr → Bool
  | [] => true
  | expr :: rest => expr.isPlain && exprsPlain rest

end

end Script
