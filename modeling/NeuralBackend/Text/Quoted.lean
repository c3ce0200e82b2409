import NeuralBackend.Text.Printable

/-!
# Quoted text

Text between double quotes, as traces show it.  Line ends, tabs, the zero character, the backslash
and the quote have short escapes; every other character that cannot be shown by itself is written as
its number in hexadecimal.
-/

namespace NeuralBackend.Text

/-- The lower case hexadecimal digits of `n`, most significant first. -/
def hexadecimal (n : Nat) : List Char := Nat.toDigits 16 n

/-- One character inside quotes. -/
def quotedChar (c : Char) : List Char :=
  match c with
  | '\x00' => ['\\', '0']
  | '\t' => ['\\', 't']
  | '\r' => ['\\', 'r']
  | '\n' => ['\\', 'n']
  | '"' => ['\\', '"']
  | '\\' => ['\\', '\\']
  | c => if isShown c then [c] else ['\\', 'u', '\x7b'] ++ hexadecimal c.toNat ++ ['\x7d']

/-- A text between quotes. -/
def quoted (s : String) : String :=
  "\"" ++ String.ofList (s.toList.flatMap quotedChar) ++ "\""

end NeuralBackend.Text
