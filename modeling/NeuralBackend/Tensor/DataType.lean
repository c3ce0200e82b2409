/-!
# Element types

The four element types a tensor can have.
-/

namespace NeuralBackend

/-- The type of a tensor's elements. -/
inductive DataType
  | float16
  | float32
  | quantisedAsymm8
  | signed32
  deriving DecidableEq, Repr, Inhabited

namespace DataType

/-- The name a type has in every message. -/
def name : DataType → String
  | float16 => "Float16"
  | float32 => "Float32"
  | quantisedAsymm8 => "QuantisedAsymm8"
  | signed32 => "Signed32"

/-- Every type, in the order of declaration. -/
def all : List DataType := [float16, float32, quantisedAsymm8, signed32]

end DataType

end NeuralBackend
