import NeuralBackend.Kernel.Check.Basic
import NeuralBackend.Kernel.LayerInfo

/-!
# Checks of layers that keep the shape of their input

Activations, the two arithmetic layers, the three normalisations and softmax.

* `broadcastDims?` is the shape two operands broadcast to; a dimension of one element stretches.
* `checkArithmetic` accepts exactly an output of that shape.
-/

namespace NeuralBackend.Kernel

/-- An activation has a kernel for quantised operands only where it clips to a range. -/
def checkActivation (input output : Operand) (info : ActivationInfo) : Verdict := do
  let routine := Routine.activation
  routine.requireType input floatOrQuantisedTypes
  routine.require
    (input.dataType = .quantisedAsymm8 →
      info.function = .boundedRelu ∨ info.function = .luBoundedRelu)
    (.quantisedFunction info.function)
  routine.requireSameType input output
  routine.requireSameShape input output

/-! ## Arithmetic -/

/-- The dimension that `x` and `y` broadcast to: equal dimensions stay, and a dimension of one
stretches to the other. -/
def broadcastDim? (x y : UInt32) : Option UInt32 :=
  if x = y then some x else if x = 1 then some y else if y = 1 then some x else none

/-- The dimensions that two operands broadcast to, over the larger of the two ranks. -/
def broadcastDims? (x y : Operand) : Option (List UInt32) :=
  (List.range (Nat.max x.rank y.rank)).mapM fun i => broadcastDim? (x.dim i) (y.dim i)

/-- What addition and multiplication have in common. -/
def checkArithmetic (routine : Routine) (input0 input1 output : Operand) : Verdict := do
  routine.requireType input0 floatTypes
  routine.requireSameType input0 input1
  routine.requireSameType input0 output
  let dims ← routine.demand (broadcastDims? input0 input1) .notBroadcastable
  routine.require (output.sameShape { dims, dataType := output.dataType })
    (.outputShape output.dims dims)

/-- The sum of two operands. -/
def checkAddition (input0 input1 output : Operand) : Verdict :=
  checkArithmetic .addition input0 input1 output

/-- The product of two operands. -/
def checkMultiplication (input0 input1 output : Operand) : Verdict :=
  checkArithmetic .multiplication input0 input1 output

/-! ## Normalisations -/

/-- A batch normalisation takes one parameter vector element per channel, four times. -/
def checkBatchNormalization (input output mean variance beta gamma : Operand) (eps : Single) :
    Verdict := do
  let routine := Routine.batchNormalization
  routine.requireType input floatTypes
  routine.requireSameType input output
  routine.requireSameShape input output
  routine.require (Single.zero.le eps) .negativeEpsilon
  routine.requireSameType input mean
  routine.requireVector "mean" mean input.channels
  routine.requireSameType input variance
  routine.requireVector "var" variance input.channels
  routine.requireSameType input beta
  routine.requireVector "beta" beta input.channels
  routine.requireSameType input gamma
  routine.requireVector "gamma" gamma input.channels

/-- A normalisation by the Euclidean norm. -/
def checkL2Normalization (input output : Operand) : Verdict := do
  let routine := Routine.l2Normalization
  routine.requireType input floatTypes
  routine.requireSameType input output
  routine.requireSameShape input output

/-- A local response normalisation over windows of an odd size. -/
def checkNormalization (input output : Operand) (info : NormalizationInfo) : Verdict := do
  let routine := Routine.normalization
  routine.requireType input floatTypes
  routine.requireSameType input output
  routine.requireSameShape input output
  routine.require (info.size.toNat % 2 = 1) .evenSize

/-- The quantisation of every quantised softmax output: scale 1/256, offset zero. -/
def softmaxQuantization : Quantization where
  scale := ⟨0x3b800000⟩
  offset := 0

/-- A softmax; a quantised one writes with a fixed quantisation. -/
def checkSoftmax (input output : Operand) (beta : Single) : Verdict := do
  let routine := Routine.softmax
  routine.requireType input floatOrQuantisedTypes
  routine.requireSameType input output
  routine.requireSameShape input output
  routine.require (Single.zero.lt beta) .betaNotPositive
  routine.require
    (input.dataType = .quantisedAsymm8 → output.quantization.sameValue softmaxQuantization)
    .softmaxQuantization

end NeuralBackend.Kernel
