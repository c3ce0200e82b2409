import NeuralBackend.Text.Ranges

/-!
# Blank characters

The characters with the Unicode property `White_Space`, and the removal of such characters from both
ends of a text.
-/

namespace NeuralBackend.Text

/-- The characters with the property `White_Space`. -/
def blanks : CharRanges :=
  [(0x9, 0xd), (0x20, 0x20), (0x85, 0x85), (0xa0, 0xa0), (0x1680, 0x1680), (0x2000, 0x200a),
   (0x2028, 0x2029), (0x202f, 0x202f), (0x205f, 0x205f), (0x3000, 0x3000)]

/-- Whether a character is blank. -/
def isBlank (c : Char) : Bool := blanks.holds c

/-- The text without blanks at either end. -/
def trim (s : List Char) : List Char :=
  ((s.dropWhile isBlank).reverse.dropWhile isBlank).reverse

end NeuralBackend.Text
