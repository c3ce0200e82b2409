import NeuralBackend.Number.Single
import NeuralBackend.Tensor.DataType
import NeuralBackend.Tensor.Shape

/-!
# Tensor descriptions

What a query knows about an operand: its shape, its element type and, for quantised tensors, the
scale and offset of the quantisation.
-/

namespace NeuralBackend

/-- The affine quantisation of a tensor; zero scale and offset where none was given. -/
structure Quantization where
  scale : Single := Single.zero
  offset : Int32 := 0
  deriving DecidableEq, Repr, Inhabited

/-- Whether two quantisations are equal as values: scales compare as numbers, so a NaN scale equals
nothing and the two zeros are equal. -/
def Quantization.sameValue (a b : Quantization) : Bool :=
  a.scale.numEq b.scale && a.offset == b.offset

/-- Shape, element type and quantisation of one operand. -/
structure TensorInfo where
  shape : Shape
  dataType : DataType
  quantization : Quantization := {}
  deriving DecidableEq, Repr, Inhabited

namespace TensorInfo

/-- The number of dimensions. -/
def rank (info : TensorInfo) : Nat := info.shape.rank

/-- The number of elements, if it fits 64 bits. -/
def elementCount? (info : TensorInfo) : Option Nat := info.shape.elementCount?

/-- Whether the elements are quantised. -/
def isQuantised (info : TensorInfo) : Bool := info.dataType == .quantisedAsymm8

/-- Whether two descriptions are equal as values. -/
def sameValue (a b : TensorInfo) : Bool :=
  a.shape == b.shape && a.dataType == b.dataType && a.quantization.sameValue b.quantization

end TensorInfo

end NeuralBackend
