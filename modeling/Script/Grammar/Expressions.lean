import Script.Grammar.Types

set_option autoImplicit false

/- The grammar of expressions, from the tightest phrases to the loosest. A phrase that stands
inside another one is read by a parser handed in, so that no rule refers to itself. -/
namespace Script.Parser

open Token (Kind)

/-- Parsers for phrases inside other phrases. -/
structure Nested where
  expr : Parser Expr
  assignment : Parser Expr
  unary : Parser Expr
  /-- The statements of a block and its closing brace. -/
  body : Parser (List Stmt)

/-- Fails where an expression has to begin. -/
def expectedExpression : Parser Expr := failWith "Expected expression, instead got \x7bpeek\x7d"

/-- A literal, a name, or an expression in parentheses. -/
def primary (nested : Nested) : Parser Expr := do
  let token ← current
  match token.kind with
  | .keyword .trueWord =>
      let _ ← advance
      return .literal (.bool true) token.position
  | .keyword .falseWord =>
      let _ ← advance
      return .literal (.bool false) token.position
  | .int | .float | .string =>
      match token.literal with
      | some value =>
          let _ ← advance
          return .literal value token.position
      | none => expectedExpression
  | .identifier =>
      let _ ← advance
      return .name token
  | .symbol .openParen =>
      let _ ← advance
      let inner ← nested.expr
      let _ ← expect (.symbol .closeParen) "after expression"
      return .grouping inner
  | _ => expectedExpression

def maxArguments : Nat := 255

/-- One or more arguments, at most as many as allowed. -/
def arguments (nested : Nested) : Nat → Parser (List Expr)
  | 0 => failOf .tooManyArguments
  | allowed + 1 => do
      let first ← nested.expr
      if ← advanceIf [.symbol .comma] then
        return first :: (← arguments nested allowed)
      else
        return [first]

/-- The arguments of a call behind its opening parenthesis. -/
def finishCall (nested : Nested) (callee : Expr) : Parser Expr := do
  let arguments ← if ← sees (.symbol .closeParen) then pure [] else arguments nested maxArguments
  let _ ← expect (.symbol .closeParen) "after function arguments"
  return .call callee arguments

/-- Calls and member accesses behind an expression, at most as many as the bound. -/
def suffixesWithin (nested : Nested) : Nat → Expr → Parser Expr
  | 0, expr => return expr
  | bound + 1, expr => do
      if ← advanceIf [.symbol .openParen] then
        suffixesWithin nested bound (← finishCall nested expr)
      else if ← advanceIf [.symbol .dot] then
        let member ← expect .identifier "after `.`"
        suffixesWithin nested bound (.member expr member)
      else
        return expr

/-- A primary expression with calls and member accesses behind it. -/
def call (nested : Nested) : Parser Expr := do
  let expr ← primary nested
  suffixesWithin nested (← left) expr

/-- A call with signs and negations before it. -/
def unary (nested : Nested) : Parser Expr := do
  if ← seesOneOf [.symbol .dash, .keyword .notWord] then
    let operator ← advance
    return .unary operator (← nested.unary)
  else
    call nested

/-- Operators and operands behind an expression, at most as many as the bound; the expression so
far is the left operand of the next operator. -/
def operationsWithin (operators : List Kind) (operand : Parser Expr) : Nat → Expr → Parser Expr
  | 0, expr => return expr
  | bound + 1, expr => do
      if ← seesOneOf operators then
        let operator ← advance
        let right ← operand
        operationsWithin operators operand bound (.binary expr operator right)
      else
        return expr

/-- Operands with operators of one level between them. -/
def operations (operators : List Kind) (operand : Parser Expr) : Parser Expr := do
  let first ← operand
  operationsWithin operators operand (← left) first

def multiplication (nested : Nested) : Parser Expr :=
  operations [.symbol .star, .symbol .slash] (unary nested)

def addition (nested : Nested) : Parser Expr :=
  operations [.symbol .plus, .symbol .dash] (multiplication nested)

def comparison (nested : Nested) : Parser Expr :=
  operations [.symbol .greater, .symbol .greaterEquals, .symbol .less, .symbol .lessEquals]
    (addition nested)

def equality (nested : Nested) : Parser Expr :=
  operations [.symbol .equals] (comparison nested)

/-- The branch behind `else`, empty if there is none. -/
def elseBranch (nested : Nested) : Parser (List Stmt) := do
  if ← advanceIf [.keyword .elseWord] then
    let _ ← expect (.symbol .openCurly) "in else branch"
    nested.body
  else
    return []

/-- An expression: a choice between two blocks, or operations. -/
def expression (nested : Nested) : Parser Expr := do
  if ← advanceIf [.keyword .ifWord] then
    let _ ← expect (.symbol .openParen) "in if expression"
    let condition ← nested.expr
    let _ ← expect (.symbol .closeParen) "in if expression"
    let _ ← expect (.symbol .openCurly) "in if expression"
    let thenBranch ← nested.body
    return .conditional condition thenBranch (← elseBranch nested)
  else
    equality nested

/-- An assignment or an expression. Only here does the sign between a name and what follows it
assign; anywhere else it compares. -/
def assignmentOrExpression (nested : Nested) : Parser Expr := do
  if (← sees .identifier) && (← nextKind?) == some (.symbol .equals) then
    let target ← advance
    let _ ← advance
    return .assign target (← nested.assignment)
  else
    expression nested

end Script.Parser
