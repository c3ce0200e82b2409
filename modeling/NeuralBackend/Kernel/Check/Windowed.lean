import NeuralBackend.Kernel.Check.Basic
import NeuralBackend.Kernel.LayerInfo

/-!
# Checks of layers that slide a window

The two convolutions and pooling.  Each computes the shape its output must have from the number of
window positions and compares the four innermost dimensions with it.
-/

namespace NeuralBackend.Kernel

/-- The type of the biases that go with an input type: a quantised convolution adds 32-bit
integers. -/
def biasType : DataType → DataType
  | .quantisedAsymm8 => .signed32
  | t => t

namespace Routine

/-- Biases, where there are any, form a vector with one element per output channel. -/
def requireBias (routine : Routine) (input : Operand) (biases : Option Operand)
    (channels : UInt32) : Verdict :=
  match biases with
  | none => .ok ()
  | some biases => do
      routine.require (biases.dataType = biasType input.dataType)
        (.biasType (biasType input.dataType) biases.dataType)
      routine.requireVector "biases" biases channels

/-- The four innermost dimensions of the output are those of `expected`. -/
def requirePlanes (routine : Routine) (output : Operand) (expected : List UInt32) : Verdict :=
  routine.require ([output.width, output.height, output.channels, output.batch] = expected)
    (.outputShape output.dims expected)

/-- The output of a convolution has one column and row per position of the kernel, `channels`
channels, and the batch of the input. -/
def requireConvolved (routine : Routine) (input weights output : Operand) (window : PadStride)
    (channels : UInt32) : Verdict := do
  let (across, down) ← routine.demand
    (window.planeCount? input.width input.height weights.width weights.height) .kernelDoesNotFit
  routine.requirePlanes output [across, down, channels, input.batch]

end Routine

/-- A convolution; the weights are `[width, height, inputs, outputs]`. -/
def checkConvolution (input weights : Operand) (biases : Option Operand) (output : Operand)
    (window : PadStride) : Verdict := do
  let routine := Routine.convolution
  routine.requireType input floatOrQuantisedTypes
  routine.requireSameType input weights
  routine.requireSameType input output
  routine.require (input.rank ≤ 4) (.rankAbove 4)
  routine.require (weights.rank = 4) (.weightRank "4")
  routine.require (weights.dim 2 = input.channels) (.inputChannels (weights.dim 2) input.channels)
  routine.requireBias input biases (weights.dim 3)
  routine.requireConvolved input weights output window (weights.dim 3)

/-- A depthwise convolution; the weights are `[width, height, channels, multiplier]`, and the output
has as many channels as the product of the last two. -/
def checkDepthwiseConvolution (input weights : Operand) (biases : Option Operand)
    (output : Operand) (window : PadStride) : Verdict := do
  let routine := Routine.depthwiseConvolution
  routine.requireType input floatOrQuantisedTypes
  routine.requireSameType input weights
  routine.requireSameType input output
  routine.require (input.rank ≤ 4) (.rankAbove 4)
  routine.require (weights.rank = 3 ∨ weights.rank = 4) (.weightRank "3 or 4")
  routine.require (weights.dim 2 = input.channels) .depthwiseChannels
  let channels ← routine.demand (word? ((weights.dim 2).toNat * (weights.dim 3).toNat))
    .channelMultiplier
  routine.requireBias input biases channels
  routine.requireConvolved input weights output window channels

/-- A pooling; every padding is smaller than the window in its direction. -/
def checkPooling (input output : Operand) (info : PoolingInfo) : Verdict := do
  let routine := Routine.pooling
  let padding := info.window.padding
  routine.requireType input floatOrQuantisedTypes
  routine.requireSameType input output
  routine.require (¬(input.dataType = .quantisedAsymm8 ∧ info.poolType = .l2)) .quantisedL2Pooling
  routine.require
    (padding.left < info.sizeX ∧ padding.right < info.sizeX ∧
      padding.top < info.sizeY ∧ padding.bottom < info.sizeY)
    .paddingNotBelowPool
  let (across, down) ← routine.demand
    (info.window.planeCount? input.width input.height info.sizeX info.sizeY) .poolDoesNotFit
  routine.requirePlanes output [across, down, input.channels, input.batch]

end NeuralBackend.Kernel
