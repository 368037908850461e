import Script.Grammar.Tape
import Script.Text.Replace
import Script.Traced

set_option autoImplicit false

/- Parsers and the steps they are made of. A parser moves a cursor, may fail, and traces what it
decides; the errors that it recovers from are part of its trace. -/
namespace Script

/-- What a parser decides on its way. Places are told by the number of tokens before them. -/
inductive Parser.Event where
  /-- A place was kept to come back to. -/
  | marked (index : Nat)
  /-- A phrase that looked like a declaration turned out to be none. -/
  | notDeclaration (error : Error)
  /-- The kept place was taken up again. -/
  | backtracked (source target : Nat)
  /-- The kept place was given up. -/
  | committed (index : Nat)
  /-- A statement was read. -/
  | parsedStatement
  /-- An error was recorded, and reading goes on behind it. -/
  | recovered (error : Error)

abbrev Parser := Traced Cursor Parser.Event Error

namespace Cursor

/-- An error at the current token. -/
def errorOf (cursor : Cursor) (cause : Error.Cause) : Error :=
  { cause, position := cursor.tape.current.position }

/-- A message about the tokens at the cursor. In the template, first the mark for the next token,
then that for the previous one, then that for the current one is replaced, each throughout. -/
def message (cursor : Cursor) (template : String) : String :=
  let next := (cursor.tape.next?.map Token.describe).getD "end of file"
  let previous := (cursor.tape.previous?.map Token.describe).getD "start of file"
  let withNext := Text.replaceAll template "\x7bpeekNext\x7d" next
  let withPrevious := Text.replaceAll withNext "\x7bpeekPrev\x7d" previous
  Text.replaceAll withPrevious "\x7bpeek\x7d" cursor.tape.current.describe

def error (cursor : Cursor) (template : String) : Error :=
  cursor.errorOf (.unexpectedToken (cursor.message template))

end Cursor

namespace Parser

open Token (Kind)

/-- Fails at the current token with a message from a template. -/
def failWith {α : Type} (template : String) : Parser α := do
  Traced.fail ((← Traced.get).error template)

def failOf {α : Type} (cause : Error.Cause) : Parser α := do
  Traced.fail ((← Traced.get).errorOf cause)

def current : Parser Token := Traced.gets fun cursor => cursor.tape.current

def nextKind? : Parser (Option Kind) := Traced.gets fun cursor => cursor.tape.next?.map Token.kind

def seesOneOf (kinds : List Kind) : Parser Bool := do
  return kinds.contains (← current).kind

def sees (kind : Kind) : Parser Bool := do
  return (← current).kind == kind

/-- How many tokens are ahead. No phrase can hold more, so this bounds every repetition. -/
def left : Parser Nat := Traced.gets fun cursor => cursor.tape.ahead.length

def advance : Parser Token := do
  let token ← current
  Traced.modify Cursor.advance
  return token

/-- Takes the current token if it is of one of the given kinds. -/
def advanceIf (kinds : List Kind) : Parser Bool := do
  if ← seesOneOf kinds then
    Traced.modify Cursor.advance
    return true
  else
    return false

def expect (kind : Kind) (context : String) : Parser Token := do
  if ← sees kind then
    advance
  else
    failWith ("Expected " ++ kind.describe ++ " " ++ context ++
      " after \x7bpeekPrev\x7d, instead got \x7bpeek\x7d")

/-- Takes line breaks, and tells whether that leads to the end. -/
def eatBlankLines : Parser Bool := do
  Traced.modify fun cursor =>
    { cursor with tape := cursor.tape.advanceWhile fun token => token.kind == .newline }
  Traced.gets fun cursor => cursor.tape.atEnd

/-- Keeps the place to come back to. Only one place can be kept at a time. -/
def checkpoint : Parser Unit := do
  let cursor ← Traced.get
  match cursor.mark with
  | some _ =>
      Traced.fail ((cursor.errorOf .nestedCheckpoint).withContext cursor.tape.current.describe)
  | none =>
      Traced.emit (.marked cursor.tape.index)
      Traced.modify fun cursor => { cursor with mark := some cursor.tape }

def hasCheckpoint : Parser Bool := Traced.gets fun cursor => cursor.mark.isSome

/-- Goes back to the kept place, if there is one, and keeps it no longer. -/
def restore : Parser Unit := do
  let cursor ← Traced.get
  match cursor.mark with
  | some tape =>
      Traced.emit (.backtracked cursor.tape.index tape.index)
      Traced.modify fun _ => ⟨tape, none⟩
  | none => pure ()

/-- Keeps the place no longer. -/
def commit : Parser Unit := do
  let cursor ← Traced.get
  match cursor.mark with
  | some _ =>
      Traced.emit (.committed cursor.tape.index)
      Traced.modify fun cursor => { cursor with mark := none }
  | none => pure ()

/-- Tokens in front of which a statement ends. -/
def statementEnds : List Kind := [.symbol .closeCurly, .symbol .semicolon, .newline, .endOfFile]

/-- Words that begin a statement. -/
def statementWords : List Kind :=
  [.keyword .varWord, .keyword .forWord, .keyword .ifWord, .keyword .whileWord,
    .keyword .returnWord]

/-- Takes at least one token, and more until a statement ends or begins. -/
def synchronize : Parser Unit := do
  Traced.modify Cursor.advance
  Traced.modify fun cursor =>
    { cursor with tape := cursor.tape.advanceWhile fun token =>
        !(statementEnds.contains token.kind || statementWords.contains token.kind) }

/-- Records an error and moves on to the next statement. An error at the end of a statement takes
that end alone, and a brace that closes the block stays. -/
def recover (error : Error) (inBlock : Bool) : Parser Unit := do
  Traced.emit (.recovered error)
  Traced.modify fun cursor => { cursor with mark := none }
  match (← current).kind with
  | .newline | .symbol .semicolon => Traced.modify Cursor.advance
  | .endOfFile => pure ()
  | kind =>
      if inBlock && kind == .symbol .closeCurly then
        pure ()
      else
        synchronize
        let _ ← advanceIf [.symbol .semicolon, .newline]

/-- Items with commas between them, at most one more than the bound. -/
def separatedWithin {α : Type} (item : Parser α) : Nat → Parser (List α)
  | 0 => do return [← item]
  | bound + 1 => do
      let first ← item
      if ← advanceIf [.symbol .comma] then
        return first :: (← separatedWithin item bound)
      else
        return [first]

/-- One or more items with commas between them. -/
def separated {α : Type} (item : Parser α) : Parser (List α) := do
  separatedWithin item (← left)

end Parser
end Script
