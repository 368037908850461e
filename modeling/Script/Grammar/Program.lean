import Script.Grammar.Statements

set_option autoImplicit false

/- Parsers for whole phrases, and the parser of programs. The rules of the grammar are tied
together level by level: every phrase inside another one begins at least one token later, so as
many levels as there are tokens ahead are enough. -/
namespace Script

namespace Parser

/-- Parsers for phrases at the end, where none can be read. -/
def noneLeft : Nested where
  expr := expectedExpression
  assignment := expectedExpression
  unary := expectedExpression
  body := do
    let _ ← expect (.symbol .closeCurly) "after block"
    return []

/-- Parsers for phrases with at most the given number of tokens ahead. -/
def nested : Nat → Nested
  | 0 => noneLeft
  | bound + 1 => {
      expr := fun cursor => expression (nested bound) cursor
      assignment := fun cursor => assignmentOrExpression (nested bound) cursor
      unary := fun cursor => unary (nested bound) cursor
      body := fun cursor => body (nested bound) cursor }

def expr : Parser Expr := do expression (nested (← left))

def assignment : Parser Expr := do assignmentOrExpression (nested (← left))

/-- A statement other than a declaration. -/
def statement : Parser Stmt := do blockOrExpression (nested (← left))

def declaration : Parser Stmt := do declarationOrStatement (nested (← left))

/-- The statements of a block behind its opening brace, and the closing brace. -/
def blockBody : Parser (List Stmt) := do body (nested (← left))

/-- Statements up to the end, or up to a closing brace in a block. -/
def statementList (inBlock : Bool) : Parser (List Stmt) := do
  statements (nested (← left)) inBlock

def Event.recorded? : Event → Option Error
  | recovered error => some error
  | _ => none

end Parser

/-- What parsing gives: the statements that could be read, and the errors in between. -/
structure Parsed where
  statements : List Stmt
  errors : List Error

/-- Reads tokens as a program, with the trace of the decisions taken. -/
def traceParse (tokens : List Token) : Parsed × List Parser.Event :=
  let done := (Parser.statementList false).run (.ofTokens tokens)
  (⟨done.outcome.toOption.getD [], done.trace.filterMap Parser.Event.recorded?⟩, done.trace)

def parse (tokens : List Token) : Parsed := (traceParse tokens).1

end Script
