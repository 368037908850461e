import Script.Grammar.Expressions

set_option autoImplicit false

/- The grammar of statements. A name may begin a declaration or an expression; a declaration is
tried first, and undone if it breaks off before it can be nothing else. -/
namespace Script.Parser

open Token (Kind)

/-- The end of a statement. A closing brace ends it too and is left where it is. -/
def statementEnd : Parser Unit := do
  if ← sees (.symbol .closeCurly) then
    return
  if ← advanceIf [.symbol .semicolon, .newline, .endOfFile] then
    return
  failWith "Unexpected \x7bpeek\x7d following expression"

/-- A variable declaration behind its name and specifiers. -/
def variableDecl (nested : Nested) (name : Token) (specifiers : List TypeExpr) (mutable : Bool) :
    Parser Stmt := do
  if mutable && (← sees (.symbol .inferred)) then
    failOf .missingMutableType
  else if ← advanceIf [.symbol .inferred] then
    let initializer ← expression nested
    return .variableDecl ⟨name, specifiers, none, mutable⟩ initializer
  else
    let _ ← expect (.symbol .colon) "in variable definition"
    let type ← typeExpr "in variable definition"
    let _ ← expect (.symbol .equals) "in variable definition"
    let initializer ← expression nested
    return .variableDecl ⟨name, specifiers, some type, mutable⟩ initializer

def parameter : Parser Parameter := do
  let name ← expect .identifier "in parameter declaration"
  let _ ← expect (.symbol .colon) "in parameter declaration"
  let type ← typeExpr "in parameter declaration"
  return ⟨name, some type⟩

def parameters : Parser (List Parameter) := do
  let _ ← expect (.symbol .openParen) "in function declaration"
  let found ← if ← sees (.symbol .closeParen) then pure [] else separated parameter
  let _ ← expect (.symbol .closeParen) "in function declaration"
  return found

/-- The body of a function behind its head, if it has one. -/
def functionBody (nested : Nested) : Parser (Option (List Stmt)) := do
  if ← advanceIf [.symbol .equals] then
    let _ ← expect (.symbol .openCurly) "in function declaration"
    return some (← nested.body)
  else
    return none

/-- A function declaration behind its name and specifiers. With the colon behind its parameters
it can be nothing else. -/
def functionDecl (nested : Nested) (name : Token) (specifierTypes : List TypeExpr) :
    Parser Stmt := do
  let found ← parameters
  let effects ← specifiers "in function declaration"
  let _ ← expect (.symbol .colon) "in function declaration"
  commit
  let returns ← typeExpr "in function declaration"
  let body ← functionBody nested
  return .functionDecl ⟨name, specifierTypes, found, effects, returns⟩ body

/-- A declaration that begins with a name. -/
def namedDeclaration (nested : Nested) : Parser Stmt := do
  let name ← expect .identifier "in declaration"
  let found ← specifiers "in declaration"
  if ← seesOneOf [.symbol .colon, .symbol .inferred] then
    commit
    variableDecl nested name found false
  else if ← sees (.symbol .openParen) then
    functionDecl nested name found
  else
    failWith "Expected definition but found \x7bpeek\x7d"

/-- Tokens that may follow the name in a declaration. -/
def declarationFollowers : List Kind :=
  [.symbol .colon, .symbol .less, .symbol .openParen, .symbol .inferred]

/-- The tokens at the cursor could begin a declaration. -/
def looksLikeDeclaration : Parser Bool := do
  return (← sees .identifier) && ((← nextKind?).any declarationFollowers.contains)

/-- A block or an expression. The statements of a block are read by the parser handed in. -/
def blockOrExpression (nested : Nested) : Parser Stmt := do
  if (← sees (.keyword .blockWord)) && (← nextKind?) == some (.symbol .openCurly) then
    let _ ← advance
    let _ ← advance
    return .block (← nested.body)
  else
    return .expression (← assignmentOrExpression nested)

/-- A declaration or another statement. A failed attempt at a declaration counts only if the kept
place was given up before. -/
def declarationOrStatement (nested : Nested) : Parser Stmt := do
  if ← advanceIf [.keyword .varWord] then
    let name ← expect .identifier "in variable declaration"
    let found ← specifiers "in declaration"
    variableDecl nested name found true
  else if ← looksLikeDeclaration then
    checkpoint
    match ← Traced.attempt (namedDeclaration nested) with
    | .ok stmt => return stmt
    | .error error =>
        if ← hasCheckpoint then
          Traced.emit (.notDeclaration error)
          restore
          blockOrExpression nested
        else
          Traced.fail error
  else
    blockOrExpression nested

/-- Statements up to the end, or up to a closing brace in a block; at most as many as the bound.
A statement that cannot be read is recorded as an error and left out. -/
def statementsWithin (nested : Nested) (inBlock : Bool) : Nat → Parser (List Stmt)
  | 0 => return []
  | bound + 1 => do
      if ← eatBlankLines then
        return []
      else if inBlock && (← sees (.symbol .closeCurly)) then
        return []
      else
        match ← Traced.attempt (declarationOrStatement nested) with
        | .ok stmt =>
            Traced.emit .parsedStatement
            match ← Traced.attempt statementEnd with
            | .ok () => pure ()
            | .error error => recover error inBlock
            return stmt :: (← statementsWithin nested inBlock bound)
        | .error error =>
            recover error inBlock
            statementsWithin nested inBlock bound

/-- Statements up to the end, or up to a closing brace in a block. -/
def statements (nested : Nested) (inBlock : Bool) : Parser (List Stmt) := do
  statementsWithin nested inBlock (← left)

/-- The statements of a block behind its opening brace, and the closing brace. -/
def body (nested : Nested) : Parser (List Stmt) := do
  let found ← statements nested true
  let _ ← expect (.symbol .closeCurly) "after block"
  return found

end Script.Parser
