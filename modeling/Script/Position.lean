set_option autoImplicit false

/- Places in a source text. Lines and columns count from one, and a column counts characters,
so a place is determined by the text that stands before it. -/
namespace Script

/-- A line and a column. Both are plain numbers, where counters of 32 bits are meant: texts have
fewer than `2 ^ 32` lines, and lines fewer than `2 ^ 32` characters. -/
structure Position where
  line : Nat
  column : Nat
deriving DecidableEq, Repr, Inhabited

namespace Position

/-- The first character of a text. -/
def start : Position := ⟨1, 1⟩

/-- The position of what stands in no text. -/
def null : Position := ⟨0, 0⟩

/-- Line zero is in no text. -/
def isNull (position : Position) : Bool := position.line == 0

/-- The place behind one character: a line feed opens the next line. -/
def next (position : Position) (char : Char) : Position :=
  if char = '\n' then ⟨position.line + 1, 1⟩ else ⟨position.line, position.column + 1⟩

/-- The place behind a text that begins here. -/
def after (position : Position) (text : List Char) : Position :=
  text.foldl next position

@[simp] theorem after_nil (position : Position) : position.after [] = position := rfl

@[simp] theorem after_cons (position : Position) (char : Char) (text : List Char) :
    position.after (char :: text) = (position.next char).after text := rfl

theorem after_append (position : Position) (first second : List Char) :
    position.after (first ++ second) = (position.after first).after second := by
  simp [after]

end Position
end Script
