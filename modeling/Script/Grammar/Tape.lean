import Script.Token

set_option autoImplicit false

/- The tokens under a parser. The tape stops at the first end of file: what stands behind that
can be looked at and never be reached. -/
namespace Script

/-- Tokens with a place among them. Told by its number, the place is that of `tokens_index`, and it
moves as `index_advance` says. -/
structure Tape where
  /-- Tokens before the place, the nearest first. -/
  passed : List Token
  /-- Tokens from the place on, up to the end of file. -/
  ahead : List Token
  /-- The first end of file. -/
  finish : Token
  /-- Tokens behind the end of file. -/
  beyond : List Token
  ahead_open : ∀ token ∈ ahead, token.kind ≠ .endOfFile
  finish_end : finish.kind = .endOfFile

namespace Tape

/-- The position at the end of tokens that do not say where they end: that of the last one. -/
def lastPosition (tokens : List Token) : Position :=
  (tokens.getLast?.map Token.position).getD .null

/-- The end of file that a tape of the given tokens stops at, which is added if none is there. -/
def finishOf (tokens : List Token) : Token :=
  (tokens.find? fun token => token.kind == .endOfFile).getD (.endOfFile (lastPosition tokens))

theorem finishOf_kind (tokens : List Token) : (finishOf tokens).kind = .endOfFile := by
  unfold finishOf
  cases found : tokens.find? fun token => token.kind == .endOfFile with
  | none => rfl
  | some token => simpa using List.find?_some found

/-- Tokens as a parser takes them: behind a last token that is no end of file, one is added. -/
def terminated (tokens : List Token) : List Token :=
  if tokens.getLast?.any fun token => token.kind == .endOfFile then tokens
  else tokens ++ [.endOfFile (lastPosition tokens)]

/-- Tokens that a parser can reach are no end of file. -/
def isOpen (token : Token) : Bool := token.kind != .endOfFile

def ofTokens (tokens : List Token) : Tape where
  passed := []
  ahead := tokens.takeWhile isOpen
  finish := finishOf tokens
  beyond := ((terminated tokens).dropWhile isOpen).tail
  ahead_open := fun token member => by
    simpa [isOpen] using List.all_eq_true.1 (List.all_takeWhile (l := tokens)) token member
  finish_end := finishOf_kind tokens

/-- The token at the place; at the end this is the end of file. -/
def current (tape : Tape) : Token := tape.ahead.headD tape.finish

def next? (tape : Tape) : Option Token :=
  match tape.ahead with
  | [] => tape.beyond.head?
  | [_] => some tape.finish
  | _ :: token :: _ => some token

def previous? (tape : Tape) : Option Token := tape.passed.head?

/-- How many tokens stand before the place. -/
def index (tape : Tape) : Nat := tape.passed.length

def atEnd (tape : Tape) : Bool := tape.ahead.isEmpty

/-- The tape some tokens further on, or at its end if there are not as many. -/
def move (tape : Tape) (count : Nat) : Tape :=
  { tape with
    passed := (tape.ahead.take count).reverse ++ tape.passed
    ahead := tape.ahead.drop count
    ahead_open := fun token member => tape.ahead_open token (List.mem_of_mem_drop member) }

def tokens (tape : Tape) : List Token :=
  tape.passed.reverse ++ tape.ahead ++ tape.finish :: tape.beyond

/-- Moving keeps the tokens. -/
@[simp] theorem tokens_move (tape : Tape) (count : Nat) :
    (tape.move count).tokens = tape.tokens := by
  simp only [tokens, move, List.reverse_append, List.reverse_reverse, List.append_assoc]
  rw [← List.append_assoc (tape.ahead.take count), List.take_append_drop]

/-- The tape behind the current token; the end of file stays current. -/
def advance (tape : Tape) : Tape := tape.move 1

/-- The tape behind all tokens from the place on that satisfy a test. -/
def advanceWhile (test : Token → Bool) (tape : Tape) : Tape :=
  tape.move (tape.ahead.takeWhile test).length

end Tape

/-- A tape with at most one earlier place of it that is kept to come back to. -/
structure Cursor where
  tape : Tape
  mark : Option Tape

namespace Cursor

def ofTokens (tokens : List Token) : Cursor := ⟨.ofTokens tokens, none⟩

def advance (cursor : Cursor) : Cursor := { cursor with tape := cursor.tape.advance }

end Cursor
end Script
