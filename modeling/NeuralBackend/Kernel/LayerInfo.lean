import NeuralBackend.Layer.Parameters

/-!
# Poolings and normalisations of the kernel library

The kernel library describes a pooling and a local response normalisation in structures of its own,
whose fields have other names and another arrangement than those of a layer.  `PoolingInfo.ofLayer`
and `NormalizationInfo.ofLayer` say which one runs a layer of a graph.
-/

namespace NeuralBackend.Kernel

/-! ## Poolings -/

/-- The poolings that have a kernel. -/
inductive PoolingType
  | max
  | avg
  | l2
  deriving DecidableEq, Repr, Inhabited

/-- The kernel for a pooling of a graph. -/
def PoolingType.ofLayer : PoolingAlgorithm → PoolingType
  | .max => max
  | .average => avg
  | .l2 => l2

/-- How windows are counted for a pooling of a graph. -/
def roundingOfLayer : OutputShapeRounding → Rounding
  | .floor => .floor
  | .ceiling => .ceiling

/-- A pooling as the kernel library runs it. -/
structure PoolingInfo where
  poolType : PoolingType
  sizeX : UInt32
  sizeY : UInt32
  window : PadStride
  /-- Whether padding is left out of the divisor of an average. -/
  excludePadding : Bool
  deriving DecidableEq, Repr, Inhabited

/-- The kernel for a pooling of a graph, with its window. -/
def PoolingInfo.ofLayer (p : Pooling) : PoolingInfo where
  poolType := .ofLayer p.algorithm
  sizeX := p.poolWidth
  sizeY := p.poolHeight
  window :=
    { strideX := p.strideX
      strideY := p.strideY
      padding := { left := p.padLeft, right := p.padRight, top := p.padTop, bottom := p.padBottom }
      rounding := roundingOfLayer p.outputShapeRounding }
  excludePadding := p.paddingMethod == .exclude

/-! ## Normalisations -/

/-- The normalisations that have a kernel. -/
inductive NormType
  /-- Across channels. -/
  | crossMap
  /-- Inside one channel's plane. -/
  | inMap2d
  deriving DecidableEq, Repr, Inhabited

/-- The kernel for a normalisation of a graph. -/
def NormType.ofLayer : NormalizationChannel → NormType
  | .across => crossMap
  | .within => inMap2d

/-- A local response normalisation as the kernel library runs it. -/
structure NormalizationInfo where
  normType : NormType
  size : UInt32
  alpha : Single
  beta : Single
  kappa : Single
  deriving DecidableEq, Repr, Inhabited

/-- The kernel for a normalisation of a graph, with its constants. -/
def NormalizationInfo.ofLayer (p : Normalization) : NormalizationInfo where
  normType := .ofLayer p.channel
  size := p.size
  alpha := p.alpha
  beta := p.beta
  kappa := p.k

end NeuralBackend.Kernel
