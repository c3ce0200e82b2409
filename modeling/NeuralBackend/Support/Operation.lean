import NeuralBackend.Support.Backend

/-!
# Operations

An `Operation` is a layer together with the tensors it is applied to, each under its own name.
`Operation.operands` puts them into the order in which queries and validators expect them.
-/

namespace NeuralBackend

/-- The tensors of a long short-term memory cell. -/
structure LstmTensors where
  input : TensorInfo
  outputStateIn : TensorInfo
  cellStateIn : TensorInfo
  scratchBuffer : TensorInfo
  outputStateOut : TensorInfo
  cellStateOut : TensorInfo
  output : TensorInfo
  inputToForgetWeights : TensorInfo
  inputToCellWeights : TensorInfo
  inputToOutputWeights : TensorInfo
  recurrentToForgetWeights : TensorInfo
  recurrentToCellWeights : TensorInfo
  recurrentToOutputWeights : TensorInfo
  forgetGateBias : TensorInfo
  cellBias : TensorInfo
  outputGateBias : TensorInfo
  inputToInputWeights : Option TensorInfo := none
  recurrentToInputWeights : Option TensorInfo := none
  cellToInputWeights : Option TensorInfo := none
  inputGateBias : Option TensorInfo := none
  projectionWeights : Option TensorInfo := none
  projectionBias : Option TensorInfo := none
  cellToForgetWeights : Option TensorInfo := none
  cellToOutputWeights : Option TensorInfo := none
  deriving DecidableEq, Repr, Inhabited

/-- The tensors of a cell as one list: the required ones, then the optional ones that are there. -/
def LstmTensors.operands (t : LstmTensors) : List TensorInfo :=
  [t.input, t.outputStateIn, t.cellStateIn, t.scratchBuffer, t.outputStateOut, t.cellStateOut,
    t.output, t.inputToForgetWeights, t.inputToCellWeights, t.inputToOutputWeights,
    t.recurrentToForgetWeights, t.recurrentToCellWeights, t.recurrentToOutputWeights,
    t.forgetGateBias, t.cellBias, t.outputGateBias] ++
  [t.inputToInputWeights, t.recurrentToInputWeights, t.cellToInputWeights, t.inputGateBias,
    t.projectionWeights, t.projectionBias, t.cellToForgetWeights,
    t.cellToOutputWeights].filterMap id

/-- A layer applied to tensors. -/
inductive Operation
  | activation (p : Activation) (input output : TensorInfo)
  | addition (input0 input1 output : TensorInfo)
  | batchNormalization (p : BatchNormalization)
      (input output mean variance beta gamma : TensorInfo)
  | constant (output : TensorInfo)
  | convertFp16ToFp32 (input output : TensorInfo)
  | convertFp32ToFp16 (input output : TensorInfo)
  | convolution2d (p : Convolution) (input output weights : TensorInfo)
      (biases : Option TensorInfo)
  | depthwiseConvolution2d (p : Convolution) (input output weights : TensorInfo)
      (biases : Option TensorInfo)
  | fakeQuantization (p : FakeQuantization) (input : TensorInfo)
  | floor (input output : TensorInfo)
  | fullyConnected (p : FullyConnected) (input output weights : TensorInfo)
      (biases : Option TensorInfo)
  | input (input : TensorInfo)
  | l2Normalization (input output : TensorInfo)
  | lstm (p : Lstm) (tensors : LstmTensors)
  | merger (p : Merger) (inputs : List TensorInfo)
  | multiplication (input0 input1 output : TensorInfo)
  | normalization (p : Normalization) (input output : TensorInfo)
  | output (output : TensorInfo)
  | permute (p : Permute) (input output : TensorInfo)
  | pooling2d (p : Pooling) (input output : TensorInfo)
  | reshape (input : TensorInfo)
  | resizeBilinear (p : ResizeBilinear) (input : TensorInfo)
  | softmax (p : Softmax) (input output : TensorInfo)
  | splitter (p : Splitter) (input : TensorInfo)
  deriving DecidableEq, Repr

namespace Operation

/-- The layer that is applied. -/
def layer : Operation → Layer
  | activation p .. => .activation p
  | addition .. => .addition
  | batchNormalization p .. => .batchNormalization p
  | constant _ => .constant
  | convertFp16ToFp32 .. => .convertFp16ToFp32
  | convertFp32ToFp16 .. => .convertFp32ToFp16
  | convolution2d p .. => .convolution2d p
  | depthwiseConvolution2d p .. => .depthwiseConvolution2d p
  | fakeQuantization p _ => .fakeQuantization p
  | floor .. => .floor
  | fullyConnected p .. => .fullyConnected p
  | input _ => .input
  | l2Normalization .. => .l2Normalization
  | lstm p _ => .lstm p
  | merger p _ => .merger p
  | multiplication .. => .multiplication
  | normalization p .. => .normalization p
  | output _ => .output
  | permute p .. => .permute p
  | pooling2d p .. => .pooling2d p
  | reshape _ => .reshape
  | resizeBilinear p _ => .resizeBilinear p
  | softmax p .. => .softmax p
  | splitter p _ => .splitter p

/-- The tensors in the order of a query: inputs, outputs, then parameter tensors. -/
def operands : Operation → List TensorInfo
  | .activation _ x y | .floor x y | .convertFp16ToFp32 x y | .convertFp32ToFp16 x y
  | .l2Normalization x y | .normalization _ x y | .permute _ x y | .pooling2d _ x y
  | .softmax _ x y => [x, y]
  | .addition x₀ x₁ y | .multiplication x₀ x₁ y => [x₀, x₁, y]
  | .batchNormalization _ x y mean variance beta gamma => [x, y, mean, variance, beta, gamma]
  | .convolution2d _ x y weights biases | .depthwiseConvolution2d _ x y weights biases
  | .fullyConnected _ x y weights biases => [x, y, weights] ++ biases.toList
  | .lstm _ tensors => tensors.operands
  | .merger _ xs => xs
  | .constant x | .fakeQuantization _ x | .input x | .output x | .reshape x
  | .resizeBilinear _ x | .splitter _ x => [x]

end Operation

/-- The query for an operation. -/
def Backend.queryOperation (b : Backend) (op : Operation) : Outcome := b.query op.layer op.operands

/-- The answer of the query for an operation. -/
def Backend.supportsOperation (b : Backend) (op : Operation) : Support :=
  (b.queryOperation op).support

end NeuralBackend
