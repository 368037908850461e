import Script.Text.Alphabetic
import Script.Text.Digit
import Script.Token

set_option autoImplicit false

/- Pieces of source text. A text is cut into pieces from left to right, each as long as it can be,
and nothing of the text is lost: the spellings of the pieces, one behind the other, are the text. -/
namespace Script

/-- A stretch of source text that is read as one. -/
inductive Piece where
  /-- Blanks within a line. -/
  | blank (run : List Char)
  | newline
  /-- A number sign and the rest of its line. -/
  | comment (body : List Char)
  /-- Text between two double quotes. -/
  | quoted (body : List Char)
  /-- A double quote that no other one closes. -/
  | unclosed (body : List Char)
  | whole (digits : List Char)
  | decimal (digits fraction : List Char)
  | word (letters : List Char)
  | symbol (sign : Symbol)
  /-- A character that begins nothing. -/
  | stray (char : Char)
deriving DecidableEq, Repr

namespace Piece

def spelling : Piece → List Char
  | blank run => run
  | newline => ['\n']
  | comment body => '#' :: body
  | quoted body => '"' :: (body ++ ['"'])
  | unclosed body => '"' :: body
  | whole digits => digits
  | decimal digits fraction => digits ++ '.' :: fraction
  | word letters => letters
  | symbol sign => sign.spelling.toList
  | stray char => [char]

/-- Blanks within a line: space, tab and carriage return. -/
def isBlank (char : Char) : Bool := char == ' ' || char == '\t' || char == '\r'

def isWordStart (char : Char) : Bool := Text.isAlphabetic char || char == '_'

def isWordPart (char : Char) : Bool :=
  Text.isAlphabetic char || Text.isDecimalDigit char || char == '_'

/-- The symbol at the front of a text, the longer one where two begin alike. -/
def symbolAt? : List Char → Option Symbol
  | '(' :: _ => some .openParen
  | ')' :: _ => some .closeParen
  | '\x7b' :: _ => some .openCurly
  | '\x7d' :: _ => some .closeCurly
  | '[' :: _ => some .openBracket
  | ']' :: _ => some .closeBracket
  | ',' :: _ => some .comma
  | '.' :: _ => some .dot
  | ';' :: _ => some .semicolon
  | ':' :: '=' :: _ => some .inferred
  | ':' :: _ => some .colon
  | '?' :: _ => some .question
  | '=' :: _ => some .equals
  | '+' :: _ => some .plus
  | '-' :: _ => some .dash
  | '*' :: _ => some .star
  | '/' :: _ => some .slash
  | '>' :: '=' :: _ => some .greaterEquals
  | '>' :: _ => some .greater
  | '<' :: '=' :: _ => some .lessEquals
  | '<' :: _ => some .less
  | _ => none

theorem symbolAt?_spelling {text : List Char} {sign : Symbol} (found : symbolAt? text = some sign) :
    sign.spelling.toList <+: text := by
  unfold symbolAt? at found
  split at found <;> simp only [Option.some.injEq, reduceCtorEq] at found <;> subst found <;>
    exact ⟨_, rfl⟩

/-- The number whose digits are at the front of a text. A point belongs to it only if a digit
follows the point. -/
def numberAt (text : List Char) : Piece :=
  let digits := text.takeWhile Char.isDigit
  match text.dropWhile Char.isDigit with
  | '.' :: rest =>
      let fraction := rest.takeWhile Char.isDigit
      if fraction.isEmpty then whole digits else decimal digits fraction
  | _ => whole digits

theorem numberAt_spelling (text : List Char) : (numberAt text).spelling <+: text := by
  have digits_front : text.takeWhile Char.isDigit <+: text := List.takeWhile_prefix _
  unfold numberAt
  cases behind : text.dropWhile Char.isDigit with
  | nil => exact digits_front
  | cons point rest =>
    split
    · next rest' equal =>
      obtain ⟨rfl, rfl⟩ := List.cons.inj equal
      dsimp only
      split
      · exact digits_front
      · have parts : text.takeWhile Char.isDigit ++ '.' :: rest = text := by
          rw [← behind, List.takeWhile_append_dropWhile]
        conv => rhs; rw [← parts]
        simp [spelling, List.takeWhile_prefix]
    · exact digits_front

/-- The quoted text at the front of a text, behind its first quote. -/
def quotedAt (text : List Char) : Piece :=
  if text.contains '"' then quoted (text.takeWhile (· != '"')) else unclosed text

private theorem through_quote {text : List Char} (closed : '"' ∈ text) :
    text.takeWhile (· != '"') ++ ['"'] <+: text := by
  induction text with
  | nil => cases closed
  | cons char rest ih =>
    by_cases quote : char = '"'
    · subst quote
      simp
    · have inside : '"' ∈ rest := by simpa [Ne.symm quote] using closed
      simpa [List.takeWhile_cons, quote] using ih inside

theorem quotedAt_spelling (text : List Char) : (quotedAt text).spelling <+: '"' :: text := by
  unfold quotedAt
  split
  · next closed => simpa [spelling] using through_quote (by simpa using closed)
  · exact List.prefix_refl _

/-- The longest piece at the front of a text that begins with `char`. -/
def first (char : Char) (rest : List Char) : Piece :=
  if isBlank char then blank ((char :: rest).takeWhile isBlank)
  else if char == '\n' then newline
  else if char == '#' then comment (rest.takeWhile (· != '\n'))
  else if char == '"' then quotedAt rest
  else if char.isDigit then numberAt (char :: rest)
  else if isWordStart char then word (char :: rest.takeWhile isWordPart)
  else match symbolAt? (char :: rest) with
    | some sign => symbol sign
    | none => stray char

/-- A text begins with its first piece. -/
theorem first_spelling (char : Char) (rest : List Char) :
    (first char rest).spelling <+: char :: rest := by
  unfold first
  split
  · exact List.takeWhile_prefix _
  split
  · next newline => simp_all [spelling]
  split
  · next sign => simp_all [spelling, List.takeWhile_prefix]
  split
  · next quote =>
    rw [eq_of_beq quote]
    exact quotedAt_spelling rest
  split
  · exact numberAt_spelling _
  split
  · simp [spelling, List.takeWhile_prefix]
  split
  · next sign found => exact symbolAt?_spelling found
  · simp [spelling]

/-- A piece is never empty. -/
theorem spelling_first_ne_nil (char : Char) (rest : List Char) :
    (first char rest).spelling ≠ [] := by
  unfold first
  split
  · next blanks => simp [spelling, blanks]
  split
  · simp [spelling]
  split
  · simp [spelling]
  split
  · unfold quotedAt
    split <;> simp [spelling]
  split
  · next digit =>
    have digits : (char :: rest).takeWhile Char.isDigit ≠ [] := by simp [digit]
    unfold numberAt
    split
    · dsimp only
      split <;> simp [spelling, digits]
    · exact digits
  split
  · simp [spelling]
  split
  · next sign _ => cases sign <;> decide
  · simp [spelling]

end Piece
end Script
