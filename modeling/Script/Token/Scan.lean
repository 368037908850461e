import Script.Piece

set_option autoImplicit false

/- From source text to tokens. The pieces of the text get their places; words, numbers, quoted
text, line breaks and symbols become tokens, and what no token can be made of becomes an error. -/
namespace Script

namespace Piece

/-- The pieces of a text. -/
def segment (text : List Char) : List Piece :=
  match text with
  | [] => []
  | char :: rest =>
      let piece := first char rest
      piece :: segment (rest.drop (piece.spelling.length - 1))
termination_by text.length
decreasing_by simp only [List.length_drop, List.length_cons]; omega

/-- What is left of a text behind its first piece. -/
theorem spelling_append_drop (char : Char) (rest : List Char) :
    (first char rest).spelling ++ rest.drop ((first char rest).spelling.length - 1) =
      char :: rest := by
  obtain ⟨behind, whole⟩ := first_spelling char rest
  have filled := spelling_first_ne_nil char rest
  cases spelled : (first char rest).spelling with
  | nil => exact absurd spelled filled
  | cons head tail =>
    rw [spelled, List.cons_append] at whole
    obtain ⟨rfl, rfl⟩ := List.cons.inj whole
    simp

/-- Nothing of a text is lost: its pieces spell it. -/
theorem segment_spelling (text : List Char) : (segment text).flatMap spelling = text := by
  fun_induction segment text with
  | case1 => rfl
  | case2 char rest piece ih =>
    rw [List.flatMap_cons, ih]
    exact spelling_append_drop char rest

/-- Pieces with the places where they begin. -/
def located (position : Position) : List Piece → List (Position × Piece)
  | [] => []
  | piece :: rest => (position, piece) :: located (position.after piece.spelling) rest

/-- The largest integer that can be written. -/
def maxInteger : Nat := 2147483647

/-- A token with the spelling of a piece. -/
def makeToken (piece : Piece) (position : Position) (kind : Token.Kind) (literal : Option Value) :
    Token :=
  ⟨kind, String.ofList piece.spelling, literal, position⟩

/-- The token that a piece is. Blanks, comments and faulty pieces are none. -/
def token? (position : Position) (piece : Piece) : Option Token :=
  match piece with
  | newline => some (piece.makeToken position .newline none)
  | quoted body => some (piece.makeToken position .string (some (.string (String.ofList body))))
  | whole digits =>
      let value := Nat.ofDigitChars 10 digits 0
      if value ≤ maxInteger then
        some (piece.makeToken position .int (some (.number (.int (Int32.ofNat value)))))
      else none
  | decimal digits fraction =>
      some (piece.makeToken position .float
        (some (.number (.float (Binary32.ofDecimal digits fraction)))))
  | word letters =>
      let kind := match Keyword.ofSpelling? (String.ofList letters) with
        | some keyword => .keyword keyword
        | none => .identifier
      some (piece.makeToken position kind none)
  | symbol sign => some (piece.makeToken position (.symbol sign) none)
  | blank _ | comment _ | unclosed _ | stray _ => none

def error? (position : Position) (piece : Piece) : Option Error :=
  match piece with
  | unclosed _ => some { cause := .unterminatedString, position }
  | whole digits =>
      if Nat.ofDigitChars 10 digits 0 ≤ maxInteger then none
      else some { cause := .numberParse (String.ofList digits), position }
  | stray char => some { cause := .unexpectedCharacter char, position }
  | _ => none

end Piece

/-- What reading a text gives: tokens, of which the last is the end of file, and errors. -/
structure Scanned where
  tokens : List Token
  errors : List Error

/-- Reads a text. An error never ends the reading. -/
def tokenize (source : String) : Scanned :=
  let pieces := Piece.located .start (Piece.segment source.toList)
  let finish := Position.start.after source.toList
  { tokens := pieces.filterMap (fun (position, piece) => piece.token? position) ++
      [Token.endOfFile finish]
    errors := pieces.filterMap fun (position, piece) => piece.error? position }

end Script
