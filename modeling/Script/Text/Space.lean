import Script.Text.Ranges

set_option autoImplicit false

/- White space of all scripts, line breaks included. -/
namespace Script.Text

def spaceRanges : List (Nat × Nat) :=
  [(0x9, 0xd), (0x20, 0x20), (0x85, 0x85), (0xa0, 0xa0), (0x1680, 0x1680), (0x2000, 0x200a),
   (0x2028, 0x2029), (0x202f, 0x202f), (0x205f, 0x205f), (0x3000, 0x3000)]

/-- White space of any script. -/
def isSpace (char : Char) : Bool := inRanges spaceRanges char.toNat

def trimEnd (text : List Char) : List Char :=
  (text.reverse.dropWhile isSpace).reverse

end Script.Text
