/-!
# Tensor shapes

A shape is the list of a tensor's dimensions, outermost first: an activation is `[batch, channels,
height, width]` and the weights of a convolution are `[outputs, inputs, height, width]`.

* `Shape.elementCount?` multiplies the dimensions from the outside in and gives up as soon as a
  partial product no longer fits 64 bits.
* `Shape.text` is the form a shape has in messages.
-/

namespace NeuralBackend

/-- A list of dimensions as messages show it: in brackets, separated by a comma and a blank. -/
def dimensionsText (dims : List UInt32) : String :=
  "[" ++ ", ".intercalate (dims.map fun d => toString d.toNat) ++ "]"

/-- The dimensions of a tensor, outermost first. -/
structure Shape where
  dims : List UInt32
  deriving DecidableEq, Repr, Inhabited

namespace Shape

/-- The number of dimensions. -/
def rank (s : Shape) : Nat := s.dims.length

/-- Dimension `index`, outermost first, if there is one. -/
def dim? (s : Shape) (index : Nat) : Option UInt32 := s.dims[index]?

/-- The bound of element counts: a count fits 64 bits. -/
def countLimit : Nat := UInt64.size

/-- One step of the element count: the product so far times a dimension, if that still fits. -/
def countStep (count : Nat) (d : UInt32) : Option Nat :=
  if count * d.toNat < countLimit then some (count * d.toNat) else none

/-- The number of elements; `none` when a product of leading dimensions does not fit 64 bits. -/
def elementCount? (s : Shape) : Option Nat := s.dims.foldlM countStep 1

/-- The shape as messages show it. -/
def text (s : Shape) : String := dimensionsText s.dims

end Shape

end NeuralBackend
