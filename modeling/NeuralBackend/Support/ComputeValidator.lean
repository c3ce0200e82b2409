import NeuralBackend.Kernel.Check.Elementwise
import NeuralBackend.Kernel.Check.Rearranged
import NeuralBackend.Kernel.Check.Windowed
import NeuralBackend.Support.Validator

/-!
# The validator of the kernel library

`judge` converts the operands of a layer and runs the check of the routine that would execute it.

* A layer takes a fixed number of operands; a layer with weights takes one more when it has a bias.
* The order of operands is input, output, weights, bias; for addition and multiplication the two
  inputs and the output; for batch normalisation input, output, mean, variance, beta, gamma.
* `Validator.compute` is `judge` with its objections put into words.
-/

namespace NeuralBackend

/-- What the kernel library objects to. -/
inductive Objection
  /-- The number of operands is not one of those allowed. -/
  | operandCount (kind : LayerKind) (least most actual : Nat)
  | missingBias (kind : LayerKind)
  | quantisedLogistic
  /-- The kind has no routine. -/
  | noRoutine (kind : LayerKind)
  | refused (refusal : Kernel.Refusal)
  deriving DecidableEq, Repr, Inhabited

/-- The objection in words. -/
def Objection.text : Objection → String
  | operandCount kind least most actual =>
      let allowed := if least = most then toString least
        else toString least ++ " to " ++ toString most
      kind.name ++ ": expected " ++ allowed ++ " operands, got " ++ toString actual
  | missingBias kind => kind.name ++ ": bias enabled but no bias tensor given"
  | quantisedLogistic => "Neon: Logistic Activations unsupported with QAsymm8 data type."
  | noRoutine kind => kind.name ++ " has no kernel validation"
  | refused refusal => refusal.text

open Kernel

/-- The answer for a layer with operands. -/
abbrev Judgement := Except Objection Unit

/-- A routine's verdict as a judgement. -/
def Kernel.Verdict.judgement (verdict : Verdict) : Judgement :=
  verdict.mapError .refused

/-- The judgement of a check on two operands. -/
def judgeTwo (kind : LayerKind) (operands : List Operand) (check : Operand → Operand → Judgement) :
    Judgement :=
  match operands with
  | [x, y] => check x y
  | _ => .error (.operandCount kind 2 2 operands.length)

/-- The judgement of a check on three operands. -/
def judgeThree (kind : LayerKind) (operands : List Operand)
    (check : Operand → Operand → Operand → Judgement) : Judgement :=
  match operands with
  | [x, y, z] => check x y z
  | _ => .error (.operandCount kind 3 3 operands.length)

/-- The judgement of a check on input, output and weights, and on a bias where that is enabled. -/
def judgeWeighted (kind : LayerKind) (operands : List Operand) (biasEnabled : Bool)
    (check : Operand → Operand → Option Operand → Operand → Judgement) : Judgement :=
  match operands with
  | [input, output, weights] =>
      if biasEnabled then .error (.missingBias kind) else check input weights none output
  | [input, output, weights, bias] =>
      check input weights (if biasEnabled then some bias else none) output
  | _ => .error (.operandCount kind 3 4 operands.length)

/-- An activation: the logistic function is refused for quantised operands before anything else. -/
def judgeActivation (p : Activation) (input output : Operand) : Judgement :=
  let info := ActivationInfo.ofLayer p
  if input.dataType = .quantisedAsymm8 ∧ info.function = .logistic then .error .quantisedLogistic
  else (checkActivation input output info).judgement

/-- The judgement of the kernel library on a layer with operands. -/
def judge (layer : Layer) (operands : List TensorInfo) : Judgement :=
  let tensors := operands.map Operand.ofInfo
  match layer with
  | .activation p => judgeTwo .activation tensors (judgeActivation p)
  | .addition => judgeThree .addition tensors fun x y z => (checkAddition x y z).judgement
  | .multiplication =>
      judgeThree .multiplication tensors fun x y z => (checkMultiplication x y z).judgement
  | .batchNormalization p =>
      match tensors with
      | [input, output, mean, variance, beta, gamma] =>
          (checkBatchNormalization input output mean variance beta gamma p.eps).judgement
      | _ => .error (.operandCount .batchNormalization 6 6 tensors.length)
  | .convolution2d p =>
      judgeWeighted .convolution2d tensors p.biasEnabled fun input weights bias output =>
        (checkConvolution input weights bias output p.window).judgement
  | .depthwiseConvolution2d p =>
      judgeWeighted .depthwiseConvolution2d tensors p.biasEnabled fun input weights bias output =>
        (checkDepthwiseConvolution input weights bias output p.window).judgement
  | .fullyConnected p =>
      judgeWeighted .fullyConnected tensors p.biasEnabled fun input weights bias output =>
        (checkFullyConnected input weights bias output p.transposeWeights).judgement
  | .l2Normalization =>
      judgeTwo .l2Normalization tensors fun x y => (checkL2Normalization x y).judgement
  | .normalization p =>
      judgeTwo .normalization tensors fun x y => (checkNormalization x y (.ofLayer p)).judgement
  | .permute p =>
      judgeTwo .permute tensors fun x y => (checkPermute x y (.ofLayer p)).judgement
  | .pooling2d p =>
      judgeTwo .pooling2d tensors fun x y => (checkPooling x y (.ofLayer p)).judgement
  | .softmax p => judgeTwo .softmax tensors fun x y => (checkSoftmax x y p.beta).judgement
  | layer => .error (.noRoutine layer.kind)

/-- The status that goes with a judgement. -/
def Judgement.status : Judgement → KernelStatus
  | .ok () => .ok
  | .error objection => .runtimeError objection.text

/-- The validator of the kernel library. -/
def Validator.compute : Validator where
  name := "compute"
  validate layer operands := (judge layer operands).status

end NeuralBackend
