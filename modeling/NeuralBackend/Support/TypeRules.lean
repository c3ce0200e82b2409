import NeuralBackend.Support.Unsupported
import NeuralBackend.Text.Quoted

/-!
# Rules by element type

Some layers are judged by the type of their first operand alone.  `TypeRules` has one rule for each
type that such a layer may have; there is no rule for 32-bit integers, and they are never supported.
-/

namespace NeuralBackend

/-- Whether a type is accepted, or the reason why it is not. -/
inductive TypeRule
  | accept
  | reject (reason : String)
  deriving DecidableEq, Repr, Inhabited

namespace TypeRule

/-- The rule as a trace shows it. -/
def text : TypeRule → String
  | accept => "Accept"
  | reject reason => "Reject(" ++ Text.quoted reason ++ ")"

/-- The answer that a rule gives. -/
def apply : TypeRule → Support
  | accept => .ok ()
  | reject reason => .error (.rejectedType reason)

end TypeRule

/-- One rule for each type that has one. -/
structure TypeRules where
  float16 : TypeRule
  float32 : TypeRule
  quantisedAsymm8 : TypeRule
  deriving DecidableEq, Repr, Inhabited

namespace TypeRules

/-- One rule for both floating point types, one for the quantised type. -/
def ofPair (float quantised : TypeRule) : TypeRules where
  float16 := float
  float32 := float
  quantisedAsymm8 := quantised

/-- Every type with a rule is accepted. -/
def floatOrQuantised : TypeRules := ofPair .accept .accept

/-- Only single precision is accepted. -/
def float32Only : TypeRules where
  float16 := .reject "Layer is not supported with float16 data type"
  float32 := .accept
  quantisedAsymm8 := .reject "Layer is not supported with 8-bit data type"

/-- The rule for a type, if it has one. -/
def rule? (rules : TypeRules) : DataType → Option TypeRule
  | .float16 => some rules.float16
  | .float32 => some rules.float32
  | .quantisedAsymm8 => some rules.quantisedAsymm8
  | .signed32 => none

/-- The answer for an operand of the given type. -/
def check (rules : TypeRules) (dataType : DataType) : Support :=
  match rules.rule? dataType with
  | some rule => rule.apply
  | none => .error (.typeWithoutRule dataType)

/-- The rules as a trace shows them. -/
def text (rules : TypeRules) : String :=
  "DataTypeMatrix \x7b float16: " ++ rules.float16.text ++ ", float32: " ++ rules.float32.text ++
    ", quantised_asymm8: " ++ rules.quantisedAsymm8.text ++ " \x7d"

end TypeRules

end NeuralBackend
