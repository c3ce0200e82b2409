/-!
# Text measured in bytes

A text takes up bytes: a character takes up one to four, as in UTF-8.  `byteLength` counts them, and
`takeBytes` and `dropBytes` cut a text at a place that is given as a number of bytes.
-/

namespace NeuralBackend.Text

/-- The number of bytes of a text. -/
def byteLength : List Char → Nat
  | [] => 0
  | c :: s => c.utf8Size + byteLength s

/-- The characters that begin before byte `n`. -/
def takeBytes (n : Nat) : List Char → List Char
  | [] => []
  | c :: s => if n = 0 then [] else c :: takeBytes (n - c.utf8Size) s

/-- The characters from byte `n` on. -/
def dropBytes (n : Nat) : List Char → List Char
  | [] => []
  | c :: s => if n = 0 then c :: s else dropBytes (n - c.utf8Size) s

end NeuralBackend.Text
