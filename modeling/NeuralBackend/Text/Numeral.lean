/-!
# Numbers in decimal

Two ways of writing numbers.  `Text.count?` reads a natural number; a plus sign may stand before it,
and zeros too.  `Text.isDecimal` says whether a text is a number with an optional sign, point and
exponent; the words for infinity and for no number at all count as numbers.
-/

namespace NeuralBackend.Text

/-- The natural number that decimal digits stand for, after an optional plus sign. -/
def count? (s : List Char) : Option Nat :=
  let digits := match s with
    | '+' :: rest => rest
    | s => s
  if digits ≠ [] && digits.all Char.isDigit then
    some (digits.foldl (fun n c => 10 * n + (c.toNat - '0'.toNat)) 0)
  else none

/-- The text without a sign at its beginning. -/
def unsigned : List Char → List Char
  | '+' :: s | '-' :: s => s
  | s => s

/-- Whether a text is empty or an exponent: the letter `e`, an optional sign and digits. -/
def isExponent : List Char → Bool
  | [] => true
  | e :: s => (e == 'e' || e == 'E') && unsigned s ≠ [] && (unsigned s).all Char.isDigit

/-- Whether a text is a number without a sign: digits, which a point may follow or divide, and
perhaps an exponent. -/
def isMagnitude (s : List Char) : Bool :=
  let whole := s.takeWhile Char.isDigit
  match s.dropWhile Char.isDigit with
  | '.' :: rest =>
      (whole ≠ [] || rest.takeWhile Char.isDigit ≠ []) && isExponent (rest.dropWhile Char.isDigit)
  | rest => whole ≠ [] && isExponent rest

/-- Whether a text is a number. -/
def isDecimal (s : List Char) : Bool :=
  isMagnitude (unsigned s) ||
    String.ofList ((unsigned s).map Char.toLower) ∈ ["inf", "infinity", "nan"]

end NeuralBackend.Text
