import NeuralBackend.Kernel.Check.Rearranged
import NeuralBackend.Proofs.Kernel.Check.Basic
import NeuralBackend.Proofs.Kernel.Permutation

/-!
# What the checks of rearranging layers decide

One lemma for the permutation and one for the fully connected layer, with what they say about the
output at the end, as for the windowed layers.  The check of a permutation goes through the
dimensions of the input; `permutedDims` is the list that it thereby demands of the output.  For the
fully connected layer there are also the causes of its refusals
(`cause_of_checkFullyConnected_error`).
-/

namespace NeuralBackend.Kernel

open Routine

variable {input weights output : Operand}

/-! ## Permutations -/

/-- The dimensions of the input, each at the place the vector sends it to. -/
def permutedDims (p : PermutationVector) (input : Operand) : List UInt32 :=
  (List.range p.rank).map fun j => input.dim (p.source j)

/-- The test pairs each dimension of the input with the place it goes to. -/
lemma all_zip_iff {p : PermutationVector} (hrank : p.rank = input.rank) :
    ((p.entries.zip input.dims).all fun pair => output.dim pair.1.toNat = pair.2) = true ↔
      ∀ i (hi : i < p.indices.length), output.dim p.indices[i] = input.dim i := by
  have hzip : (p.entries.zip input.dims).length = p.indices.length := by
    rw [List.length_zip, PermutationVector.length_indices]
    exact Nat.min_eq_left (Nat.le_of_eq hrank)
  have hdims : input.dims.length = p.indices.length := by
    rw [PermutationVector.length_indices]
    exact hrank.symm
  simp only [List.all_eq_true, decide_eq_true_eq]
  rw [List.forall_mem_iff_forall_getElem]
  constructor
  · intro h i hi
    have hpair := h i (by rwa [hzip])
    rw [List.getElem_zip] at hpair
    rw [Operand.dim_eq_getElem (x := input) (by rwa [hdims])]
    simpa only [PermutationVector.indices, List.getElem_map] using hpair
  · intro h i hi
    rw [hzip] at hi
    have hplace := h i hi
    rw [Operand.dim_eq_getElem (x := input) (by rwa [hdims])] at hplace
    rw [List.getElem_zip]
    simpa only [PermutationVector.indices, List.getElem_map] using hplace

lemma begins_permutedDims_iff {p : PermutationVector} (hvalid : p.IsValid) :
    output.Begins (permutedDims p input) ↔
      ∀ i (hi : i < p.indices.length), output.dim p.indices[i] = input.dim i := by
  rw [permutedDims, Operand.begins_map_range_iff]
  exact (hvalid.forall_indices_iff (Q := fun i j => output.dim j = input.dim i)).symm

lemma checkPermute_ok_iff {p : PermutationVector} :
    checkPermute input output p = .ok () ↔
      input.dataType = output.dataType ∧ (p.IsValid ∧ p.rank = input.rank) ∧
      output.Begins (permutedDims p input) := by
  simp only [checkPermute, bind_ok_iff, exists_const, require_ok_iff, requireSameType_ok_iff]
  refine and_congr_right fun _ => and_congr_right fun ⟨hvalid, hrank⟩ => ?_
  rw [all_zip_iff hrank, begins_permutedDims_iff hvalid]

/-! ## Fully connected layers -/

/-- The number of inputs that the weights are for. -/
def weightInputs (weights : Operand) (transposed : Bool) : UInt32 :=
  if transposed then weights.dim 0 else weights.dim 1

/-- The number of outputs that the weights are for. -/
def weightOutputs (weights : Operand) (transposed : Bool) : UInt32 :=
  if transposed then weights.dim 1 else weights.dim 0

lemma checkFullyConnected_ok_iff {biases : Option Operand} {transposed : Bool} :
    checkFullyConnected input weights biases output transposed = .ok () ↔
      input.dataType ∈ floatTypes ∧ input.dataType = weights.dataType ∧
      input.dataType = output.dataType ∧ weights.rank = 2 ∧
      featureCount? input = some (weightInputs weights transposed) ∧
      (∀ b ∈ biases, input.dataType = b.dataType ∧ b.rank = 1 ∧
        b.dim 0 = weightOutputs weights transposed) ∧
      output.Begins [weightOutputs weights transposed, rowCount input] := by
  have hpair : output.Begins [weightOutputs weights transposed, rowCount input] ↔
      output.dim 0 = weightOutputs weights transposed ∧ output.dim 1 = rowCount input := by
    rw [Operand.begins_iff_map]
    simp [List.range_succ]
  rw [hpair]
  cases biases with
  | none =>
      simp [checkFullyConnected, bind_ok_iff, require_ok_iff, demand_ok_iff, requireType_ok_iff,
        requireSameType_ok_iff, weightInputs, weightOutputs]
  | some b =>
      simp [checkFullyConnected, bind_ok_iff, require_ok_iff, demand_ok_iff, requireType_ok_iff,
        requireSameType_ok_iff, requireVector_ok_iff, weightInputs, weightOutputs, and_assoc]

section Refusals

variable {biases : Option Operand} {transposed : Bool}

/-- The causes for which a fully connected layer is refused. -/
lemma cause_of_checkFullyConnected_error {r : Refusal}
    (h : checkFullyConnected input weights biases output transposed = .error r) :
    r.routine = .fullyConnected ∧
      (r.cause = .featureCount ∨ (∃ t, r.cause = .dataType t) ∨ (∃ a b, r.cause = .dataTypes a b) ∨
        (∃ rank, r.cause = .weightRank rank) ∨ (∃ a b, r.cause = .weightInputs a b) ∨
        (∃ n dims, r.cause = .notVector "biases" n dims) ∨ ∃ a b, r.cause = .outputShape a b) := by
  cases biases <;>
    simp only [checkFullyConnected, bind_error_iff, requireType, requireSameType, requireVector,
      require_error_iff, demand_error_iff] at h
  · rcases h with ⟨-, rfl⟩ | ⟨-, -, ⟨-, rfl⟩ | ⟨-, -, ⟨-, rfl⟩ | ⟨-, -, ⟨-, rfl⟩ | ⟨-, -,
      ⟨-, rfl⟩ | ⟨_, -, ⟨-, rfl⟩ | ⟨-, -, -, rfl⟩⟩⟩⟩⟩⟩ <;>
      simp
  · rcases h with ⟨-, rfl⟩ | ⟨-, -, ⟨-, rfl⟩ | ⟨-, -, ⟨-, rfl⟩ | ⟨-, -, ⟨-, rfl⟩ | ⟨-, -,
      ⟨-, rfl⟩ | ⟨_, -, ⟨-, rfl⟩ | ⟨-, -, ⟨-, rfl⟩ | ⟨-, -, ⟨-, rfl⟩ | ⟨-, -, -, rfl⟩⟩⟩⟩⟩⟩⟩⟩ <;>
      simp

/-- A feature count is asked for once the types and the rank of the weights are accepted. -/
lemma checkFullyConnected_error_featureCount_iff :
    checkFullyConnected input weights biases output transposed
        = .error ⟨.fullyConnected, .featureCount⟩ ↔
      input.dataType ∈ floatTypes ∧ input.dataType = weights.dataType ∧
      input.dataType = output.dataType ∧ weights.rank = 2 ∧ featureCount? input = none := by
  cases biases <;>
    simp [checkFullyConnected, bind_error_iff, require_error_iff, requireType,
      requireSameType, requireVector, require_ok_iff, demand_ok_iff, demand_error_iff]

end Refusals

end NeuralBackend.Kernel
