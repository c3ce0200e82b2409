import NeuralBackend.Tensor.Info

/-!
# Operands of the kernel library

The kernel library counts dimensions from the inside: an activation is `[width, height, channels,
batch]`, the weights of a convolution are `[width, height, inputs, outputs]`.  A dimension beyond
the rank is one element wide.

* `Operand.dim` is the one view of an operand's shape that the checks use.
* `Operand.sameShape` compares two operands through that view, so leading ones of the
  outermost-first form make no difference.
* `Operand.ofInfo` turns a tensor description around by reversing its dimensions.
-/

namespace NeuralBackend.Kernel

/-- Shape, element type and quantisation of an operand, innermost dimension first. -/
structure Operand where
  dims : List UInt32
  dataType : DataType
  quantization : Quantization := {}
  deriving DecidableEq, Repr, Inhabited

namespace Operand

/-- The number of dimensions. -/
def rank (x : Operand) : Nat := x.dims.length

/-- Dimension `index`, innermost first; one beyond the rank. -/
def dim (x : Operand) (index : Nat) : UInt32 := x.dims.getD index 1

/-- The number of columns of a plane. -/
def width (x : Operand) : UInt32 := x.dim 0

/-- The number of rows of a plane. -/
def height (x : Operand) : UInt32 := x.dim 1

/-- The number of channels of an activation. -/
def channels (x : Operand) : UInt32 := x.dim 2

/-- The number of items in a batch of activations. -/
def batch (x : Operand) : UInt32 := x.dim 3

/-- Whether two operands agree in every dimension. -/
def sameShape (x y : Operand) : Bool :=
  (List.range (Nat.max x.rank y.rank)).all fun i => x.dim i == y.dim i

/-- Whether two operands are equal as values. -/
def sameValue (x y : Operand) : Bool :=
  x.dims == y.dims && x.dataType == y.dataType && x.quantization.sameValue y.quantization

/-- The operand as messages show it. -/
def text (x : Operand) : String := dimensionsText x.dims ++ " " ++ x.dataType.name

/-- The operand that a tensor description stands for. -/
def ofInfo (info : TensorInfo) : Operand where
  dims := info.shape.dims.reverse
  dataType := info.dataType
  quantization := info.quantization

end Operand

end NeuralBackend.Kernel
