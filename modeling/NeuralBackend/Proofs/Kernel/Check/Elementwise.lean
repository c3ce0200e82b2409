import NeuralBackend.Kernel.Check.Elementwise
import NeuralBackend.Proofs.Kernel.Check.Basic

/-!
# What the checks of shape-keeping layers decide

These checks compare the output with the input as a whole, so that the two have one shape up to
leading ones.  The arithmetic layers compare it with the shape that their two inputs broadcast to.
-/

namespace NeuralBackend.Kernel

open Routine

/-- An activation runs on operands of one shape and of one type that has kernels; a quantised one
only where it clips to a range. -/
lemma checkActivation_ok_iff {input output : Operand} {info : ActivationInfo} :
    checkActivation input output info = .ok () ↔
      input.dataType ∈ floatOrQuantisedTypes ∧
      (input.dataType = .quantisedAsymm8 →
        info.function = .boundedRelu ∨ info.function = .luBoundedRelu) ∧
      input.dataType = output.dataType ∧ input.sameShape output = true := by
  simp only [checkActivation, bind_ok_iff, exists_const, require_ok_iff, requireType_ok_iff,
    requireSameType_ok_iff, requireSameShape_ok_iff]

/-! ## Arithmetic -/

lemma checkArithmetic_ok_iff {routine : Routine} {input0 input1 output : Operand} :
    checkArithmetic routine input0 input1 output = .ok () ↔
      input0.dataType ∈ floatTypes ∧ input0.dataType = input1.dataType ∧
      input0.dataType = output.dataType ∧
      ∃ dims, broadcastDims? input0 input1 = some dims ∧
        output.sameShape { dims, dataType := output.dataType } = true := by
  simp only [checkArithmetic, bind_ok_iff, exists_const, require_ok_iff, demand_ok_iff,
    requireType_ok_iff, requireSameType_ok_iff]

/-! ## Normalisations -/

/-- Each of the four parameters is a vector of the type of the input, with an element for each
channel. -/
lemma checkBatchNormalization_ok_iff {input output mean variance beta gamma : Operand}
    {eps : Single} :
    checkBatchNormalization input output mean variance beta gamma eps = .ok () ↔
      input.dataType ∈ floatTypes ∧ input.dataType = output.dataType ∧
      input.sameShape output = true ∧ Single.zero.le eps = true ∧
      ∀ v ∈ [mean, variance, beta, gamma],
        input.dataType = v.dataType ∧ v.rank = 1 ∧ v.dim 0 = input.channels := by
  simp only [checkBatchNormalization, bind_ok_iff, exists_const, require_ok_iff,
    requireType_ok_iff, requireSameType_ok_iff, requireSameShape_ok_iff, requireVector_ok_iff,
    List.forall_mem_cons, List.not_mem_nil, false_imp_iff, implies_true, and_true, and_assoc]

lemma checkL2Normalization_ok_iff {input output : Operand} :
    checkL2Normalization input output = .ok () ↔
      input.dataType ∈ floatTypes ∧ input.dataType = output.dataType ∧
      input.sameShape output = true := by
  simp only [checkL2Normalization, bind_ok_iff, exists_const, requireType_ok_iff,
    requireSameType_ok_iff, requireSameShape_ok_iff]

lemma checkNormalization_ok_iff {input output : Operand} {info : NormalizationInfo} :
    checkNormalization input output info = .ok () ↔
      input.dataType ∈ floatTypes ∧ input.dataType = output.dataType ∧
      input.sameShape output = true ∧ info.size.toNat % 2 = 1 := by
  simp only [checkNormalization, bind_ok_iff, exists_const, require_ok_iff, requireType_ok_iff,
    requireSameType_ok_iff, requireSameShape_ok_iff]

/-- With an odd size there is nothing to refuse but types and shapes. -/
lemma cause_of_checkNormalization_error {input output : Operand} {info : NormalizationInfo}
    {r : Refusal} (hsize : info.size.toNat % 2 = 1)
    (h : checkNormalization input output info = .error r) :
    r.routine = .normalization ∧
      (r.cause = .dataType input.dataType ∨ r.cause = .dataTypes input.dataType output.dataType ∨
        r.cause = .shapes input.dims output.dims) := by
  simp only [checkNormalization, bind_error_iff, requireType, requireSameType, requireSameShape,
    require_error_iff] at h
  rcases h with ⟨-, rfl⟩ | ⟨-, -, ⟨-, rfl⟩ | ⟨-, -, ⟨-, rfl⟩ | ⟨-, -, heven, -⟩⟩⟩
  · exact ⟨rfl, .inl rfl⟩
  · exact ⟨rfl, .inr (.inl rfl)⟩
  · exact ⟨rfl, .inr (.inr rfl)⟩
  · exact absurd hsize heven

/-- A softmax of quantised operands writes with the one quantisation its kernel has. -/
lemma checkSoftmax_ok_iff {input output : Operand} {beta : Single} :
    checkSoftmax input output beta = .ok () ↔
      input.dataType ∈ floatOrQuantisedTypes ∧ input.dataType = output.dataType ∧
      input.sameShape output = true ∧ Single.zero.lt beta = true ∧
      (input.dataType = .quantisedAsymm8 →
        output.quantization.sameValue softmaxQuantization = true) := by
  simp only [checkSoftmax, bind_ok_iff, exists_const, require_ok_iff, requireType_ok_iff,
    requireSameType_ok_iff, requireSameShape_ok_iff]

end NeuralBackend.Kernel
