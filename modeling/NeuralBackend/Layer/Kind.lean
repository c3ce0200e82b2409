/-!
# Kinds of layers

The operator kinds a network graph can hold.  `LayerKind.all` lists them in alphabetical order, the
order in which every table of this library is read.
-/

namespace NeuralBackend

/-- The kind of a layer, without its parameters. -/
inductive LayerKind
  | activation
  | addition
  | batchNormalization
  | constant
  | convertFp16ToFp32
  | convertFp32ToFp16
  | convolution2d
  | depthwiseConvolution2d
  | fakeQuantization
  | floor
  | fullyConnected
  | input
  | l2Normalization
  | lstm
  | merger
  | multiplication
  | normalization
  | output
  | permute
  | pooling2d
  | reshape
  | resizeBilinear
  | softmax
  | splitter
  deriving DecidableEq, Repr, Inhabited

namespace LayerKind

/-- The name of a kind in messages. -/
def name : LayerKind → String
  | activation => "Activation"
  | addition => "Addition"
  | batchNormalization => "BatchNormalization"
  | constant => "Constant"
  | convertFp16ToFp32 => "ConvertFp16ToFp32"
  | convertFp32ToFp16 => "ConvertFp32ToFp16"
  | convolution2d => "Convolution2d"
  | depthwiseConvolution2d => "DepthwiseConvolution2d"
  | fakeQuantization => "FakeQuantization"
  | floor => "Floor"
  | fullyConnected => "FullyConnected"
  | input => "Input"
  | l2Normalization => "L2Normalization"
  | lstm => "Lstm"
  | merger => "Merger"
  | multiplication => "Multiplication"
  | normalization => "Normalization"
  | output => "Output"
  | permute => "Permute"
  | pooling2d => "Pooling2d"
  | reshape => "Reshape"
  | resizeBilinear => "ResizeBilinear"
  | softmax => "Softmax"
  | splitter => "Splitter"

/-- Every kind, once, in alphabetical order. -/
def all : List LayerKind :=
  [activation, addition, batchNormalization, constant, convertFp16ToFp32, convertFp32ToFp16,
    convolution2d, depthwiseConvolution2d, fakeQuantization, floor, fullyConnected, input,
    l2Normalization, lstm, merger, multiplication, normalization, output, permute, pooling2d,
    reshape, resizeBilinear, softmax, splitter]

end LayerKind

end NeuralBackend
