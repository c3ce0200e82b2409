import NeuralBackend.Kernel.Check.Windowed
import NeuralBackend.Proofs.Kernel.Check.Basic

/-!
# What the checks of windowed layers decide

One lemma for each of the two convolutions and for pooling.  What they say about the output stands
at the end: its type is that of the input, and its innermost dimensions are the computed ones.
-/

namespace NeuralBackend.Kernel

/-- Only the biases of a quantised input have a type of their own. -/
lemma biasType_eq (t : DataType) :
    biasType t = if t = .quantisedAsymm8 then .signed32 else t := by
  cases t <;> rfl

/-- The biases, if there are any, are a vector of the type that goes with the input, with one
element for each of `channels` channels. -/
def BiasFits (input : Operand) (biases : Option Operand) (channels : UInt32) : Prop :=
  ∀ b ∈ biases, b.dataType = biasType input.dataType ∧ b.rank = 1 ∧ b.dim 0 = channels

namespace Routine

variable {routine : Routine} {input weights output : Operand} {biases : Option Operand}
  {window : PadStride} {channels : UInt32} {u : Unit}

lemma requireBias_ok_iff :
    routine.requireBias input biases channels = .ok u ↔ BiasFits input biases channels := by
  cases biases with
  | none => exact iff_of_true rfl fun _ hb => by cases hb
  | some b =>
      simp only [requireBias, bind_ok_iff, exists_const, require_ok_iff, requireVector_ok_iff,
        BiasFits, Option.mem_def, Option.some.injEq, forall_eq']

/-- The comparison looks at the four innermost dimensions and at no other. -/
lemma requirePlanes_ok_iff {a b c d : UInt32} :
    routine.requirePlanes output [a, b, c, d] = .ok u ↔ output.Begins [a, b, c, d] := by
  rw [requirePlanes, require_ok_iff, Operand.begins_iff_map]
  rfl

lemma requireConvolved_ok_iff :
    routine.requireConvolved input weights output window channels = .ok u ↔
      ∃ across down,
        window.planeCount? input.width input.height weights.width weights.height
          = some (across, down) ∧
        output.Begins [across, down, channels, input.batch] := by
  simp only [requireConvolved, bind_ok_iff, demand_ok_iff, requirePlanes_ok_iff, Prod.exists]

end Routine

open Routine

variable {input weights output : Operand} {biases : Option Operand} {window : PadStride}

lemma checkConvolution_ok_iff :
    checkConvolution input weights biases output window = .ok () ↔
      input.dataType ∈ floatOrQuantisedTypes ∧ input.dataType = weights.dataType ∧
      input.dataType = output.dataType ∧ input.rank ≤ 4 ∧ weights.rank = 4 ∧
      weights.dim 2 = input.channels ∧ BiasFits input biases (weights.dim 3) ∧
      ∃ across down,
        window.planeCount? input.width input.height weights.width weights.height
          = some (across, down) ∧
        output.Begins [across, down, weights.dim 3, input.batch] := by
  simp only [checkConvolution, bind_ok_iff, exists_const, require_ok_iff, requireType_ok_iff,
    requireSameType_ok_iff, requireBias_ok_iff, requireConvolved_ok_iff]

lemma checkDepthwiseConvolution_ok_iff :
    checkDepthwiseConvolution input weights biases output window = .ok () ↔
      input.dataType ∈ floatOrQuantisedTypes ∧ input.dataType = weights.dataType ∧
      input.dataType = output.dataType ∧ input.rank ≤ 4 ∧
      (weights.rank = 3 ∨ weights.rank = 4) ∧ weights.dim 2 = input.channels ∧
      ∃ channels, word? ((weights.dim 2).toNat * (weights.dim 3).toNat) = some channels ∧
        BiasFits input biases channels ∧
        ∃ across down,
          window.planeCount? input.width input.height weights.width weights.height
            = some (across, down) ∧
          output.Begins [across, down, channels, input.batch] := by
  simp only [checkDepthwiseConvolution, bind_ok_iff, exists_const, require_ok_iff, demand_ok_iff,
    requireType_ok_iff, requireSameType_ok_iff, requireBias_ok_iff, requireConvolved_ok_iff]

/-- The kernels by the Euclidean norm run the poolings by the Euclidean norm. -/
lemma PoolingType.ofLayer_eq_l2_iff {algorithm : PoolingAlgorithm} :
    ofLayer algorithm = .l2 ↔ algorithm = .l2 := by
  cases algorithm <;> simp [ofLayer]

lemma checkPooling_ok_iff {info : PoolingInfo} :
    checkPooling input output info = .ok () ↔
      input.dataType ∈ floatOrQuantisedTypes ∧ input.dataType = output.dataType ∧
      ¬(input.dataType = .quantisedAsymm8 ∧ info.poolType = .l2) ∧
      (info.window.padding.left < info.sizeX ∧ info.window.padding.right < info.sizeX ∧
        info.window.padding.top < info.sizeY ∧ info.window.padding.bottom < info.sizeY) ∧
      ∃ across down,
        info.window.planeCount? input.width input.height info.sizeX info.sizeY
          = some (across, down) ∧
        output.Begins [across, down, input.channels, input.batch] := by
  simp only [checkPooling, bind_ok_iff, exists_const, require_ok_iff, demand_ok_iff,
    requireType_ok_iff, requireSameType_ok_iff, requirePlanes_ok_iff, Prod.exists]

end NeuralBackend.Kernel
