import NeuralBackend.Pattern.Bracket
import NeuralBackend.Pattern.Group

/-!
# Well-formed patterns

`Pattern.isWellFormed` says whether a text is a regular expression.  A reader goes over the text
from left to right and keeps a `Pattern.Progress`: the mode, the modes to return to when groups end,
the names of groups, and whether what was read last can be repeated.
-/

namespace NeuralBackend.Pattern

/-- What is known of a pattern after a part of it. -/
structure Progress where
  mode : Mode := {}
  /-- The modes around the open groups, the innermost first. -/
  outer : List Mode := []
  groupNames : List (List Char) := []
  /-- Whether the last thing read can be repeated. -/
  repeatable : Bool := false
  deriving DecidableEq, Repr, Inhabited

namespace Progress

/-- Reads on after an opening parenthesis. -/
def enter? (p : Progress) (s : List Char) : Option (Progress × List Char) := do
  let (opening, rest) ← p.mode.opening? s
  let p := { p with repeatable := false }
  match opening with
  | .capture none => return ({ p with outer := p.mode :: p.outer }, rest)
  | .capture (some groupName) =>
      if groupName ∈ p.groupNames then none
      else
        return ({ p with outer := p.mode :: p.outer, groupNames := groupName :: p.groupNames },
          rest)
  | .plain mode => return ({ p with outer := p.mode :: p.outer, mode }, rest)
  | .change mode => return ({ p with mode }, rest)

/-- Ends the innermost group. -/
def leave? (p : Progress) : Option Progress :=
  match p.outer with
  | [] => none
  | mode :: outer => some { p with mode, outer, repeatable := true }

/-- Reads an item that stands by itself. -/
def item? (p : Progress) (item : Item) : Option Progress :=
  if p.mode.allows item then some { p with repeatable := true } else none

/-- Reads one part of a pattern that begins with the character `c`.  A question mark after a sign of
repetition belongs to it. -/
def step? (p : Progress) (c : Char) (s : List Char) : Option (Progress × List Char) :=
  match c with
  | '(' => p.enter? s
  | ')' => p.leave?.map fun p => (p, s)
  | '|' => some ({ p with repeatable := false }, s)
  | '[' => (p.mode.set? s).map fun rest => ({ p with repeatable := true }, rest)
  | '?' | '*' | '+' =>
      if p.repeatable then
        match s with
        | '?' :: rest => some (p, rest)
        | s => some (p, s)
      else none
  | '\x7b' => none
  | '.' => if p.mode.unicode then some ({ p with repeatable := true }, s) else none
  | '^' | '$' => (p.item? .edge).map fun p => (p, s)
  | '\\' => do
      let (item, rest) ← p.mode.escape? s
      let p ← p.item? item
      return (p, rest)
  | c => (p.item? (.char c false)).map fun p => (p, s)

/-- Whether the rest of a pattern can be read to its end, with all groups closed there. -/
def canFinish : Nat → Progress → List Char → Bool
  | 0, _, _ => false
  | fuel + 1, p, s =>
      match p.mode.skip s with
      | [] => p.outer.isEmpty
      | c :: rest =>
          match p.step? c rest with
          | none => false
          | some (p, rest) => canFinish fuel p rest

end Progress

/-- Whether a text without closing braces is a regular expression.  A value in a filter ends where
such a brace stands, so no count of repetitions is ever complete. -/
def isWellFormed (s : List Char) : Bool := Progress.canFinish (s.length + 1) {} s

end NeuralBackend.Pattern
