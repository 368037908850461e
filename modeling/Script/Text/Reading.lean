import Script.Position

set_option autoImplicit false

/- A place in a text that is being read, moved by the text that is passed over. -/
namespace Script

/-- A place in a text that is being read: what is left, and where it begins. -/
structure Reading where
  rest : List Char
  position : Position

namespace Reading

def ofText (source : String) : Reading := ⟨source.toList, .start⟩

/-- What is left of a text behind its first `size` bytes. -/
def dropBytes (size : Nat) : List Char → List Char
  | [] => []
  | char :: rest => if size = 0 then char :: rest else dropBytes (size - char.utf8Size) rest

/-- Moves over as many bytes as `text` has, counting lines and columns as in `text`. -/
def advance (reading : Reading) (text : String) : Reading :=
  ⟨dropBytes text.utf8ByteSize reading.rest, reading.position.after text.toList⟩

def atEnd (reading : Reading) : Bool := reading.rest.isEmpty

end Reading
end Script
