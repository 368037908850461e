import Script.Binary32

set_option autoImplicit false

/- Decimal text of single precision numbers. A number is written without exponent and with at
least one digit behind the point: a whole number exactly, any other with the fewest digits that
read back as the same number. -/
namespace Script.Binary32

/-- The number nearest to a decimal with the given digits before and behind the point. -/
def ofDecimal (whole fraction : List Char) : Binary32 :=
  ofQuotient false (Nat.ofDigitChars 10 (whole ++ fraction) 0 * one) (Nat.pow 10 fraction.length)

/-- The decimal `digits / 10 ^ places` reads as the given magnitude. -/
def readsAs (magnitude places digits : Nat) : Bool :=
  nearest (digits * one) (Nat.pow 10 places) == magnitude

/-- The decimal with the given number of places that reads as the given magnitude, if there is
one. Only the neighbours of the value can; of two the nearer is taken, and at a half the upper. -/
def decimalAt? (magnitude places : Nat) : Option Nat :=
  let scaled := unitsOf magnitude * Nat.pow 10 places
  let low := scaled / one
  match readsAs magnitude places low, readsAs magnitude places (low + 1) with
  | true, true => some (if 2 * (scaled % one) < one then low else low + 1)
  | true, false => some low
  | false, true => some (low + 1)
  | false, false => none

/-- The fewest places, at least one, of a decimal that reads as the given magnitude, with its
digits. The value itself has at most 149 places. -/
def shortestDecimal (magnitude : Nat) : Nat × Nat :=
  ((List.range 149).findSome? fun index =>
    (decimalAt? magnitude (index + 1)).map fun digits => (index + 1, digits)).getD (1, 0)

/-- A decimal with its point; the digits behind the point are filled with zeros. -/
def decimalText (places digits : Nat) : List Char :=
  let fraction := Nat.toDigits 10 (digits % Nat.pow 10 places)
  Nat.toDigits 10 (digits / Nat.pow 10 places) ++ '.' ::
    (List.replicate (places - fraction.length) '0' ++ fraction)

def magnitudeText (magnitude : Nat) : List Char :=
  let units := unitsOf magnitude
  if units % one = 0 then Nat.toDigits 10 (units / one) ++ ['.', '0']
  else decimalText (shortestDecimal magnitude).1 (shortestDecimal magnitude).2

def display (x : Binary32) : String :=
  if x.isNaN then "NaN"
  else
    let text := if x.isInfinite then ['i', 'n', 'f'] else magnitudeText x.magnitude
    String.ofList (if x.negative then '-' :: text else text)

end Script.Binary32
