set_option autoImplicit false

/- Sets of characters given by ascending ranges of code points, both ends included. -/
namespace Script.Text

/-- Membership in ascending ranges; the search ends at the first range that begins too high. -/
def inRanges : List (Nat × Nat) → Nat → Bool
  | [], _ => false
  | (low, high) :: rest, code =>
      if code < low then false else if code ≤ high then true else inRanges rest code

end Script.Text
