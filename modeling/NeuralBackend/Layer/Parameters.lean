import NeuralBackend.Number.Single
import NeuralBackend.Window

/-!
# Layer parameters

One structure per kind of layer that has parameters.  A field's default is the value a layer has
when nothing is said about it.
-/

namespace NeuralBackend

/-- The activation functions a graph can ask for. -/
inductive ActivationFunction
  | sigmoid
  | tanH
  | linear
  | reLu
  /-- The smaller of `a` and the larger of `b` and the element. -/
  | boundedReLu
  | softReLu
  | leakyReLu
  | abs
  | sqrt
  | square
  deriving DecidableEq, Repr, Inhabited

/-- An activation: its function and the two constants some functions use. -/
structure Activation where
  function : ActivationFunction := .sigmoid
  a : Single := Single.zero
  b : Single := Single.zero
  deriving DecidableEq, Repr, Inhabited

/-- The constant that keeps the variance away from zero; `0.0001` unless given. -/
structure BatchNormalization where
  eps : Single := ⟨0x38d1b717⟩
  deriving DecidableEq, Repr, Inhabited

/-- A two-dimensional convolution, plain or depthwise. -/
structure Convolution where
  strideX : UInt32 := 0
  strideY : UInt32 := 0
  padding : Padding := {}
  biasEnabled : Bool := false
  deriving DecidableEq, Repr, Inhabited

/-- The window of a convolution; a partial last stride is dropped. -/
def Convolution.window (p : Convolution) : PadStride :=
  { strideX := p.strideX, strideY := p.strideY, padding := p.padding, rounding := .floor }

/-- The range of a fake quantisation; from `-6` to `6` unless given. -/
structure FakeQuantization where
  min : Single := ⟨0xc0c00000⟩
  max : Single := ⟨0x40c00000⟩
  deriving DecidableEq, Repr, Inhabited

/-- A fully connected layer.  Its weights are `[inputs, outputs]`, or `[outputs, inputs]` when they
are transposed. -/
structure FullyConnected where
  biasEnabled : Bool := false
  transposeWeights : Bool := false
  deriving DecidableEq, Repr, Inhabited

/-- A long short-term memory cell. -/
structure Lstm where
  activationFunction : UInt32 := 0
  clippingCell : Single := Single.zero
  clippingProjection : Single := Single.zero
  cifgEnabled : Bool := false
  peepholeEnabled : Bool := false
  projectionEnabled : Bool := false
  deriving DecidableEq, Repr, Inhabited

/-- A concatenation: the origin of each input inside the output. -/
structure Merger where
  origins : List (List UInt32) := []
  deriving DecidableEq, Repr, Inhabited

/-- Whether a normalisation runs across channels or inside one channel's plane. -/
inductive NormalizationChannel
  | across
  | within
  deriving DecidableEq, Repr, Inhabited

/-- The two methods of local response normalisation. -/
inductive NormalizationMethod
  | localBrightness
  | localContrast
  deriving DecidableEq, Repr, Inhabited

/-- A local response normalisation. -/
structure Normalization where
  channel : NormalizationChannel := .across
  method : NormalizationMethod := .localBrightness
  size : UInt32 := 0
  alpha : Single := Single.zero
  beta : Single := Single.zero
  k : Single := Single.zero
  deriving DecidableEq, Repr, Inhabited

/-- A permutation of dimensions: entry `i` is the destination of source dimension `i`, outermost
first. -/
structure Permute where
  mappings : List UInt32 := []
  deriving DecidableEq, Repr, Inhabited

/-- How the elements under a pooling window become one. -/
inductive PoolingAlgorithm
  | max
  | average
  | l2
  deriving DecidableEq, Repr, Inhabited

/-- What becomes of a partial last stride: no output element, or one more. -/
inductive OutputShapeRounding
  | floor
  | ceiling
  deriving DecidableEq, Repr, Inhabited

/-- How padding counts in an average. -/
inductive PaddingMethod
  /-- Padding counts in the divisor. -/
  | ignoreValue
  /-- Padding is left out of the divisor. -/
  | exclude
  deriving DecidableEq, Repr, Inhabited

/-- A two-dimensional pooling. -/
structure Pooling where
  algorithm : PoolingAlgorithm
  padLeft : UInt32 := 0
  padRight : UInt32 := 0
  padTop : UInt32 := 0
  padBottom : UInt32 := 0
  poolWidth : UInt32
  poolHeight : UInt32
  strideX : UInt32
  strideY : UInt32
  outputShapeRounding : OutputShapeRounding := .floor
  paddingMethod : PaddingMethod := .exclude
  deriving DecidableEq, Repr, Inhabited

/-- Pooling with windows side by side: the stride is the size of the window. -/
def Pooling.ofSize (algorithm : PoolingAlgorithm) (poolWidth poolHeight : UInt32) : Pooling :=
  { algorithm, poolWidth, poolHeight, strideX := poolWidth, strideY := poolHeight }

/-- The target of a bilinear resize. -/
structure ResizeBilinear where
  width : UInt32 := 0
  height : UInt32 := 0
  deriving DecidableEq, Repr, Inhabited

/-- The scale of the exponent of a softmax; `1` unless given. -/
structure Softmax where
  beta : Single := Single.one
  deriving DecidableEq, Repr, Inhabited

/-- A split: origin and size of each output inside the input. -/
structure Splitter where
  origins : List (List UInt32) := []
  sizes : List (List UInt32) := []
  deriving DecidableEq, Repr, Inhabited

end NeuralBackend
