import NeuralBackend.Pattern.Item

/-!
# Sets in brackets

A set of characters in a pattern stands in brackets: items, ranges between two of them, sets with
names, and further sets in brackets of their own.  Two ampersands, hyphens or tildes join what
stands before them with what follows.

`Pattern.Mode.set?` reads a set from its opening bracket on and returns what follows it.
-/

namespace NeuralBackend.Pattern

/-- The names of sets that can be written between colons. -/
def setNames : List String :=
  ["alnum", "alpha", "ascii", "blank", "cntrl", "digit", "graph", "lower", "print", "punct",
    "space", "upper", "word", "xdigit"]

/-- Reads a set with a name, after its opening bracket; also whether it is negated. -/
def namedSet? : List Char → Option (Bool × List Char)
  | ':' :: s =>
      let negated := s.head? == some '^'
      let s := if negated then s.drop 1 else s
      match s.dropWhile (· != ':') with
      | ':' :: ']' :: rest =>
          if String.ofList (s.takeWhile (· != ':')) ∈ setNames then some (negated, rest) else none
      | _ => none
  | _ => none

namespace Mode

/-- Reads the beginning of a set, after its opening bracket.  A set is not empty: hyphens at its
beginning belong to it, and so does a closing bracket if there are none. -/
def openSet? (m : Mode) (s : List Char) : Option (List Char) :=
  let s := m.skip s
  let negated := s.head? == some '^'
  let s := if negated then m.skip (s.drop 1) else s
  if negated && !m.unicode then none
  else
    match s with
    | '-' :: _ => some (m.skipAnd (· == '-') false s)
    | ']' :: rest => some rest
    | s => some s

/-- Reads one item of a set. -/
def setItem? (m : Mode) (s : List Char) : Option (Item × List Char) := do
  let (item, rest) ← match s with
    | [] => none
    | '\\' :: rest => m.escape? rest
    | c :: rest => some (.char c false, rest)
  if m.allowsInSet item then some (item, rest) else none

/-- What a range goes to is looked for after a hyphen: the next character that counts there, of
which one number sign does not. -/
def afterHyphen? (m : Mode) (s : List Char) : Option Char :=
  if m.spaced then
    match s.dropWhile Text.isBlank with
    | '#' :: rest => (rest.dropWhile Text.isBlank).head?
    | rest => rest.head?
  else s.head?

/-- Reads one item of a set, or a range.  A hyphen before another one or before a closing bracket
does not make a range. -/
def range? (m : Mode) (s : List Char) : Option (List Char) := do
  let (first, rest) ← m.setItem? s
  match m.skip rest with
  | '-' :: after =>
      if m.afterHyphen? after ∈ [some ']', some '-'] then return '-' :: after
      let (last, after) ← m.setItem? (m.skip after)
      match first, last with
      | .char a _, .char b _ => if a ≤ b then some after else none
      | _, _ => none
  | rest => some rest

/-- Reads the rest of a set that stands in `depth` others, up to its closing bracket. -/
def setRest? (m : Mode) : Nat → Nat → List Char → Option (List Char)
  | 0, _, _ => none
  | fuel + 1, depth, s =>
      match m.skip s with
      | [] => none
      | ']' :: rest => if depth = 0 then some rest else m.setRest? fuel (depth - 1) rest
      | '[' :: rest =>
          match namedSet? rest with
          | some (negated, after) =>
              if negated && !m.unicode then none else m.setRest? fuel depth after
          | none => do
              let after ← m.openSet? rest
              m.setRest? fuel (depth + 1) after
      | '&' :: '&' :: rest | '-' :: '-' :: rest | '~' :: '~' :: rest => m.setRest? fuel depth rest
      | s => do
          let after ← m.range? s
          m.setRest? fuel depth after

/-- Reads a set, after its opening bracket. -/
def set? (m : Mode) (s : List Char) : Option (List Char) :=
  if m.unicode && m.anyCase then none
  else do
    let rest ← m.openSet? s
    m.setRest? (s.length + 1) 0 rest

end Mode

end NeuralBackend.Pattern
