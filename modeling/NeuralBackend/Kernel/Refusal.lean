import NeuralBackend.Kernel.Activation
import NeuralBackend.Kernel.Permutation
import NeuralBackend.Tensor.DataType

/-!
# Refusals of the kernel library

Each routine of the kernel library can say why it does not run a configuration.  A `Refusal` names
the routine and the cause; `Refusal.text` is the one place where it is put into words.
-/

namespace NeuralBackend.Kernel

/-- The routines that check a configuration. -/
inductive Routine
  | activation
  | addition
  | multiplication
  | batchNormalization
  | convolution
  | depthwiseConvolution
  | l2Normalization
  | normalization
  | permute
  | pooling
  | softmax
  | fullyConnected
  deriving DecidableEq, Repr, Inhabited

/-- The name of a routine, which opens each of its refusals. -/
def Routine.name : Routine → String
  | activation => "NEActivationLayer"
  | addition => "NEArithmeticAddition"
  | multiplication => "NEPixelWiseMultiplication"
  | batchNormalization => "NEBatchNormalizationLayer"
  | convolution => "NEConvolutionLayer"
  | depthwiseConvolution => "NEDepthwiseConvolutionLayer"
  | l2Normalization => "NEL2NormalizeLayer"
  | normalization => "NENormalizationLayer"
  | permute => "NEPermute"
  | pooling => "NEPoolingLayer"
  | softmax => "NESoftmaxLayer"
  | fullyConnected => "NEFullyConnectedLayer"

/-- Why a routine does not run a configuration.  Dimension lists are innermost first. -/
inductive Cause
  | dataType (actual : DataType)
  | dataTypes (a b : DataType)
  | shapes (a b : List UInt32)
  | quantisedFunction (function : ActivationKernel)
  | notBroadcastable
  | outputShape (actual expected : List UInt32)
  | negativeEpsilon
  | notVector (operand : String) (length : UInt32) (actual : List UInt32)
  | rankAbove (limit : Nat)
  | weightRank (allowed : String)
  | inputChannels (expected actual : UInt32)
  | depthwiseChannels
  | channelMultiplier
  | biasType (expected actual : DataType)
  | kernelDoesNotFit
  | evenSize
  | permutation (p : PermutationVector) (rank : Nat)
  | permutedShape (actual : List UInt32)
  | quantisedL2Pooling
  | paddingNotBelowPool
  | poolDoesNotFit
  | betaNotPositive
  | softmaxQuantization
  | featureCount
  | weightInputs (expected actual : UInt32)
  deriving DecidableEq, Repr, Inhabited

/-- The cause in words. -/
def Cause.text : Cause → String
  | dataType t => "data type " ++ t.name ++ " not supported"
  | dataTypes a b => "data types mismatch (" ++ a.name ++ " vs " ++ b.name ++ ")"
  | shapes a b => "shapes mismatch (" ++ dimensionsText a ++ " vs " ++ dimensionsText b ++ ")"
  | quantisedFunction f => "activation function " ++ f.name ++ " not supported for QASYMM8"
  | notBroadcastable => "inputs are not broadcast compatible"
  | outputShape actual expected =>
      "wrong output shape " ++ dimensionsText actual ++ ", expected " ++ dimensionsText expected
  | negativeEpsilon => "epsilon must not be negative"
  | notVector operand length actual =>
      operand ++ " must be a vector of " ++ toString length.toNat ++ " elements, got " ++
        dimensionsText actual
  | rankAbove limit =>
      "tensors with more than " ++ toString limit ++ " dimensions are not supported"
  | weightRank allowed => "weights must have " ++ allowed ++ " dimensions"
  | inputChannels expected actual =>
      "weights expect " ++ toString expected.toNat ++ " input channels, input has " ++
        toString actual.toNat
  | depthwiseChannels => "weights channel count does not match the input"
  | channelMultiplier => "channel multiplier overflows the output channel count"
  | biasType expected actual => "biases must be " ++ expected.name ++ ", got " ++ actual.name
  | kernelDoesNotFit =>
      "kernel does not fit the padded input, stride is zero or padding overflows"
  | evenSize => "normalization size must be odd"
  | permutation p rank =>
      "invalid permutation vector " ++ p.text ++ " for rank " ++ toString rank
  | permutedShape actual => "wrong output shape " ++ dimensionsText actual
  | quantisedL2Pooling => "L2 pooling is not supported for QASYMM8"
  | paddingNotBelowPool => "padding must be smaller than the pool size"
  | poolDoesNotFit => "pool does not fit the padded input, stride is zero or padding overflows"
  | betaNotPositive => "beta must be positive"
  | softmaxQuantization => "QASYMM8 output quantization must be scale 1/256 and offset 0"
  | featureCount => "flattened input feature count overflows"
  | weightInputs expected actual =>
      "weights expect " ++ toString expected.toNat ++ " inputs, input provides " ++
        toString actual.toNat

/-- A routine together with the reason why it does not run a configuration. -/
structure Refusal where
  routine : Routine
  cause : Cause
  deriving DecidableEq, Repr, Inhabited

/-- The refusal in words: the routine, a colon and the cause. -/
def Refusal.text (r : Refusal) : String := r.routine.name ++ ": " ++ r.cause.text

/-- The answer of a check. -/
abbrev Verdict := Except Refusal Unit

/-- A check that passes when `condition` holds and is refused for `cause` otherwise. -/
def Routine.require (routine : Routine) (condition : Prop) [Decidable condition] (cause : Cause) :
    Verdict :=
  if condition then .ok () else .error ⟨routine, cause⟩

/-- The value of `found`, or a refusal for `cause` where there is none. -/
def Routine.demand {α : Type} (routine : Routine) (found : Option α) (cause : Cause) :
    Except Refusal α :=
  match found with
  | some value => .ok value
  | none => .error ⟨routine, cause⟩

end NeuralBackend.Kernel
