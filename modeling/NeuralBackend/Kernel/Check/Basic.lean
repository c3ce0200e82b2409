import NeuralBackend.Kernel.Operand
import NeuralBackend.Kernel.Refusal

/-!
# Parts of a check

The conditions that several routines share.  A check is a sequence of conditions; the first that
does not hold gives the refusal.
-/

namespace NeuralBackend.Kernel

/-- The floating point types. -/
def floatTypes : List DataType := [.float16, .float32]

/-- The floating point types and the quantised type. -/
def floatOrQuantisedTypes : List DataType := [.float16, .float32, .quantisedAsymm8]

namespace Routine

/-- The operand's type is one of `allowed`. -/
def requireType (routine : Routine) (x : Operand) (allowed : List DataType) : Verdict :=
  routine.require (x.dataType ∈ allowed) (.dataType x.dataType)

/-- Two operands have one type. -/
def requireSameType (routine : Routine) (x y : Operand) : Verdict :=
  routine.require (x.dataType = y.dataType) (.dataTypes x.dataType y.dataType)

/-- Two operands have one shape. -/
def requireSameShape (routine : Routine) (x y : Operand) : Verdict :=
  routine.require (x.sameShape y) (.shapes x.dims y.dims)

/-- The operand called `operand` is a vector of `length` elements. -/
def requireVector (routine : Routine) (operand : String) (x : Operand) (length : UInt32) :
    Verdict :=
  routine.require (x.rank = 1 ∧ x.dim 0 = length) (.notVector operand length x.dims)

end Routine

end NeuralBackend.Kernel
