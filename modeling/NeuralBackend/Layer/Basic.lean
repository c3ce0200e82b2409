import NeuralBackend.Layer.Kind
import NeuralBackend.Layer.Parameters

/-!
# Layers

A `Layer` is one operator of a network graph: its kind together with the parameters of that kind.
-/

namespace NeuralBackend

/-- An operator with its parameters. -/
inductive Layer
  | activation (p : Activation)
  | addition
  | batchNormalization (p : BatchNormalization)
  | constant
  | convertFp16ToFp32
  | convertFp32ToFp16
  | convolution2d (p : Convolution)
  | depthwiseConvolution2d (p : Convolution)
  | fakeQuantization (p : FakeQuantization)
  | floor
  | fullyConnected (p : FullyConnected)
  | input
  | l2Normalization
  | lstm (p : Lstm)
  | merger (p : Merger)
  | multiplication
  | normalization (p : Normalization)
  | output
  | permute (p : Permute)
  | pooling2d (p : Pooling)
  | reshape
  | resizeBilinear (p : ResizeBilinear)
  | softmax (p : Softmax)
  | splitter (p : Splitter)
  deriving DecidableEq, Repr, Inhabited

/-- The kind of a layer. -/
def Layer.kind : Layer → LayerKind
  | activation _ => .activation
  | addition => .addition
  | batchNormalization _ => .batchNormalization
  | constant => .constant
  | convertFp16ToFp32 => .convertFp16ToFp32
  | convertFp32ToFp16 => .convertFp32ToFp16
  | convolution2d _ => .convolution2d
  | depthwiseConvolution2d _ => .depthwiseConvolution2d
  | fakeQuantization _ => .fakeQuantization
  | floor => .floor
  | fullyConnected _ => .fullyConnected
  | input => .input
  | l2Normalization => .l2Normalization
  | lstm _ => .lstm
  | merger _ => .merger
  | multiplication => .multiplication
  | normalization _ => .normalization
  | output => .output
  | permute _ => .permute
  | pooling2d _ => .pooling2d
  | reshape => .reshape
  | resizeBilinear _ => .resizeBilinear
  | softmax _ => .softmax
  | splitter _ => .splitter

end NeuralBackend
