set_option autoImplicit false

/- Replacement of every occurrence of a pattern, from left to right and without overlap. -/
namespace Script.Text

/-- Writes `replacement` for each occurrence of `pattern`. The first argument counts the
characters that still belong to the last occurrence. -/
def replaceFrom (pattern replacement : List Char) : Nat → List Char → List Char
  | _, [] => []
  | skip + 1, _ :: rest => replaceFrom pattern replacement skip rest
  | 0, char :: rest =>
      if pattern.isPrefixOf (char :: rest) then
        replacement ++ replaceFrom pattern replacement (pattern.length - 1) rest
      else char :: replaceFrom pattern replacement 0 rest

def replaceAll (text pattern replacement : String) : String :=
  String.ofList (replaceFrom pattern.toList replacement.toList 0 text.toList)

end Script.Text
