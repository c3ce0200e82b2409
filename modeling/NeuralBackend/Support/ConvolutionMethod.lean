import NeuralBackend.Layer.Parameters
import NeuralBackend.Tensor.Info
import NeuralBackend.Trace.Event

/-!
# Choosing how a convolution is computed

The direct kernel exists for single precision weights of one column and one row, strides from one to
three, no padding, and a bias.  Everything else is computed through a matrix product.
-/

namespace NeuralBackend

/-- Whether a stride is one the direct kernel runs with. -/
def isDirectStride (stride : UInt32) : Bool := 1 ≤ stride.toNat && stride.toNat ≤ 3

/-- Whether nothing is added on any side. -/
def Padding.isZero (p : Padding) : Bool := p == {}

/-- Whether the direct kernel runs a convolution with the given weights. -/
def Convolution.prefersDirect (p : Convolution) (weights : TensorInfo) : Bool :=
  weights.dataType == .float32 && isDirectStride p.strideX && isDirectStride p.strideY &&
    (weights.shape.dim? 2 == some 1 && weights.shape.dim? 3 == some 1 && p.padding.isZero) &&
    p.biasEnabled

/-- The method for a convolution. -/
def Convolution.method (p : Convolution) (weights : TensorInfo) : ConvolutionMethod :=
  if p.prefersDirect weights then .direct else .general

/-- The method for a convolution, and the event that reports the choice. -/
def Convolution.selectMethod (p : Convolution) (weights : TensorInfo) :
    ConvolutionMethod × List Event :=
  (p.method weights, [.methodSelected (p.method weights) weights.shape])

end NeuralBackend
