import Script.Error
import Script.Text.Lines
import Script.Text.Space

set_option autoImplicit false

/- Diagnostics: a heading, the file, and the line of the fault with a caret under its column. -/
namespace Script

namespace Diagnostic

/-- Blanks and tabs in front of a line are not shown. -/
def isIndent (char : Char) : Bool := char == ' ' || char == '\t'

/-- A field has at most this many characters. -/
def maxWidth : Nat := 65535

/-- A text set to the right of a field. The program breaks off where it asks for a field that is too
wide. -/
def alignRight? (fill : Char) (width : Nat) (text : String) : Option String :=
  if width ≤ maxWidth then some (String.ofList (List.replicate (width - text.length) fill) ++ text)
  else none

/-- The heading: the name of the fault, with the advice for it in parentheses. -/
def heading (error : Error) : String :=
  match error.cause.tip? with
  | none => "Error: " ++ error.cause.name ++ "\n"
  | some tip => "Error: " ++ error.cause.name ++ " (" ++ tip ++ ")\n"

/-- The line of a fault and, below it, a caret as far to the right as the column asks for. -/
def excerpt? (position : Position) (line : List Char) : Option String := do
  let number := toString position.line
  let shown := line.dropWhile isIndent
  let bar ← alignRight? ' ' (number.length + 2) "|"
  let caret ← alignRight? '-' (max (position.column - (line.length - shown.length)) 1) "^"
  return bar ++ "\n" ++
    number ++ " | " ++ String.ofList (Text.trimEnd shown) ++ "\n" ++
    bar ++ " " ++ caret ++ "\n"

/-- The diagnostic of a fault, unless it needs too wide a field. Without a line to show, the fault
is told in one line. -/
def render? (error : Error) (source file : String) : Option String :=
  let shown? := match lineAt? source error.position.line with
    | some line => excerpt? error.position line
    | none => some (error.display ++ "\n")
  shown?.map (heading error ++ "-> " ++ file ++ "\n" ++ ·)

end Diagnostic
end Script
