import NeuralBackend.Pattern.Item

/-!
# Groups

What can follow an opening parenthesis in a pattern: a name, or flags that change the mode.

`Pattern.Mode.opening?` reads it.  The mode that flags lead to counts up to a closing parenthesis:
that of the group that the flags open, or that of the group they stand in.
-/

namespace NeuralBackend.Pattern

/-- What an opening parenthesis begins. -/
inductive Opening
  /-- A group whose match is kept, perhaps under a name. -/
  | capture (groupName : Option (List Char))
  /-- A group with a mode of its own. -/
  | plain (mode : Mode)
  /-- No group, but another mode. -/
  | change (mode : Mode)
  deriving DecidableEq, Repr, Inhabited

/-- Whether a text can be the name of a group. -/
def isGroupName : List Char → Bool
  | [] => false
  | c :: s =>
      (c == '_' || Text.isAlphabetic c) &&
        s.all fun c => c ∈ ['_', '.', '[', ']'] || Text.isAlphanumeric c

/-- Reads the name of a group, up to its closing angle bracket. -/
def Opening.named? (s : List Char) : Option (Opening × List Char) :=
  let groupName := s.takeWhile (· != '>')
  match s.dropWhile (· != '>') with
  | _ :: rest => if isGroupName groupName then some (.capture (some groupName), rest) else none
  | [] => none

/-- Whether a text is a list of flags: each at most once, and at most one hyphen before those that
are turned off. -/
def isFlags (s : List Char) : Bool :=
  decide s.Nodup && s.getLast? != some '-' &&
    s.all fun c => c ∈ ['i', 'm', 's', 'U', 'u', 'R', 'x', '-']

/-- The value of a flag after a list of flags. -/
def flagAfter (flags : List Char) (flag : Char) (before : Bool) : Bool :=
  if flag ∈ flags then decide (flag ∈ flags.takeWhile (· != '-')) else before

namespace Mode

/-- The mode that flags lead to. -/
def withFlags (m : Mode) (flags : List Char) : Mode where
  spaced := flagAfter flags 'x' m.spaced
  unicode := flagAfter flags 'u' m.unicode
  anyCase := flagAfter flags 'i' m.anyCase

/-- Reads flags and the colon or parenthesis that ends them. -/
def flagged? (m : Mode) (s : List Char) : Option (Opening × List Char) :=
  let flags := s.takeWhile fun c => c != ':' && c != ')'
  if isFlags flags then
    match s.dropWhile fun c => c != ':' && c != ')' with
    | ':' :: rest => some (.plain (m.withFlags flags), rest)
    | _ :: rest => if flags = [] then none else some (.change (m.withFlags flags), rest)
    | [] => none
  else none

/-- Reads what follows an opening parenthesis. -/
def opening? (m : Mode) (s : List Char) : Option (Opening × List Char) :=
  match m.skip s with
  | '?' :: 'P' :: '<' :: rest | '?' :: '<' :: rest => Opening.named? rest
  | '?' :: rest => m.flagged? rest
  | rest => some (.capture none, rest)

end Mode

end NeuralBackend.Pattern
