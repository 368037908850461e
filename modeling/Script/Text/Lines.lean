set_option autoImplicit false

/- The lines of a text. -/
namespace Script

/-- The parts of a text between its line feeds. There is always at least one. -/
def splitLines : List Char → List (List Char)
  | [] => [[]]
  | char :: rest =>
      if char = '\n' then [] :: splitLines rest
      else match splitLines rest with
        | [] => [[char]]
        | line :: lines => (char :: line) :: lines

/-- A line without the carriage return at its end. -/
def stripReturn (line : List Char) : List Char :=
  if line.getLast? = some '\r' then line.dropLast else line

/-- The line with a number, counted from one, without its line break. -/
def lineAt? (source : String) (line : Nat) : Option (List Char) :=
  if line = 0 then none else (splitLines source.toList)[line - 1]?.map stripReturn

end Script
