import NeuralBackend.Text.Alphanumeric
import NeuralBackend.Text.Blank

/-!
# Items of a pattern

A pattern is a regular expression.  Its smallest parts are items: characters, written as they are or
after a backslash, and the classes and conditions that have names of one letter.

* `Pattern.Mode` says how the characters of a pattern are taken.
* `Pattern.Mode.skip` leaves out what does not count where blanks may be added freely.
* `Pattern.Mode.escape?` reads what follows a backslash.
* `Pattern.Mode.allows` and `Pattern.Mode.allowsInSet` say where an item may stand.  Patterns are
  matched against well-formed text and without tables of Unicode properties.  So what needs such a
  table is refused, and so is what may match a part of a character.
-/

namespace NeuralBackend.Pattern

/-- How the characters of a pattern are taken. -/
structure Mode where
  /-- Blanks and comments in the pattern are left out. -/
  spaced : Bool := false
  /-- The pattern is about characters, and not about single bytes. -/
  unicode : Bool := true
  /-- Letters match in both cases. -/
  anyCase : Bool := false
  deriving DecidableEq, Repr, Inhabited

/-- One item. -/
inductive Item
  /-- A character; `byByte` if its number was written in two digits. -/
  | char (c : Char) (byByte : Bool)
  /-- The digits, the blanks or the characters of words, or all others. -/
  | shorthand (negated : Bool)
  /-- The beginning or the end of the text. -/
  | edge
  /-- A place where a word begins or ends, or where none does. -/
  | wordBoundary
  deriving DecidableEq, Repr, Inhabited

namespace Mode

/-- Leaves out the characters in `extra`, and with them blanks and comments where those do not
count.  A comment goes from a number sign to the end of the line. -/
def skipAnd (m : Mode) (extra : Char → Bool) (inComment : Bool) : List Char → List Char
  | [] => []
  | c :: s =>
      if inComment then m.skipAnd extra (c != '\n') s
      else if extra c || (m.spaced && Text.isBlank c) then m.skipAnd extra false s
      else if m.spaced && c == '#' then m.skipAnd extra true s
      else c :: s

/-- Leaves out blanks and comments where they do not count. -/
def skip (m : Mode) : List Char → List Char := m.skipAnd (fun _ => false) false

/-- Whether an item may stand in a pattern by itself. -/
def allows (m : Mode) : Item → Bool
  | .char c byByte => if m.unicode then !m.anyCase else !byByte || c.toNat < 0x80
  | .shorthand negated => !m.unicode && !negated
  | .edge => true
  | .wordBoundary => !m.unicode

/-- Whether an item may stand in a set. -/
def allowsInSet (m : Mode) : Item → Bool
  | .char c _ => m.unicode || c.toNat < 0x80
  | .shorthand negated => !m.unicode && !negated
  | .edge | .wordBoundary => false

/-- The value of a hexadecimal digit. -/
def digitValue? (c : Char) : Option Nat :=
  if c.isDigit then some (c.toNat - '0'.toNat)
  else if 'a' ≤ c ∧ c ≤ 'f' then some (c.toNat - 'a'.toNat + 10)
  else if 'A' ≤ c ∧ c ≤ 'F' then some (c.toNat - 'A'.toNat + 10)
  else none

/-- Reads the last `n` digits of a hexadecimal number whose first digits stand for `value`. -/
def digits? (m : Mode) (value : Nat) : Nat → List Char → Option (Nat × List Char)
  | 0, s => some (value, s)
  | n + 1, s =>
      match m.skip s with
      | [] => none
      | c :: rest => do
          let digit ← digitValue? c
          m.digits? (16 * value + digit) n rest

/-- Reads a character given by its number in `n` hexadecimal digits. -/
def numbered? (m : Mode) (n : Nat) (s : List Char) : Option (Item × List Char) := do
  let (value, rest) ← m.digits? 0 n s
  if value.isValidChar then some (.char (Char.ofNat value) (n == 2), rest) else none

/-- Reads what follows a backslash. -/
def escape? (m : Mode) : List Char → Option (Item × List Char)
  | [] => none
  | c :: s =>
      match c with
      | 'x' => m.numbered? 2 s
      | 'u' => m.numbered? 4 s
      | 'U' => m.numbered? 8 s
      | 'd' | 's' | 'w' => some (.shorthand false, s)
      | 'D' | 'S' | 'W' => some (.shorthand true, s)
      | 'A' | 'z' => some (.edge, s)
      | 'b' | 'B' | '<' | '>' => some (.wordBoundary, s)
      | 'a' => some (.char '\x07' false, s)
      | 't' => some (.char '\t' false, s)
      | 'n' => some (.char '\n' false, s)
      | 'v' => some (.char '\x0b' false, s)
      | 'f' => some (.char '\x0c' false, s)
      | 'r' => some (.char '\r' false, s)
      | c => if c.toNat < 0x80 && !c.isAlphanum then some (.char c false, s) else none

end Mode

end NeuralBackend.Pattern
