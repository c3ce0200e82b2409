import NeuralBackend.Proofs.Kernel.Check.Rearranged
import NeuralBackend.Proofs.Support.Judgement

/-!
# Which permutations are supported

A permute layer says where each dimension of its input goes, outermost first.  For the kernel
library both shapes are read from the other end, and so are the mappings, as a list and in what each
of them says.  **`permute_supported_iff`**: none of this is seen from outside.  The answer is the
one that the mappings give as they stand, on the shapes as they are described.

* `fits_ofLayer_iff` says which mappings are accepted for a rank; it is here that more mappings than
  words would be in the way.
* `checkPermute_ofInfo_iff` turns the dimensions around.  The place `i` of a description is place
  `n - 1 - i` of its operand, for a dimension and for the one it goes to, and the two cancel.
-/

namespace NeuralBackend

open Kernel

variable {p : Permute} {input output : TensorInfo}

/-- The mappings that are accepted for `n` dimensions are the indices below `n` in some order. -/
lemma fits_ofLayer_iff (hcount : p.mappings.length < UInt32.size) {n : Nat} :
    (PermutationVector.ofLayer p).IsValid ∧ (PermutationVector.ofLayer p).rank = n ↔
      (p.mappings.map UInt32.toNat).Perm (List.range n) := by
  rw [PermutationVector.isValid_ofLayer_iff hcount, PermutationVector.isValid_iff_perm,
    PermutationVector.rank_ofLayer]
  constructor
  · rintro ⟨hperm, rfl⟩
    exact hperm
  · intro hperm
    have hlength : p.mappings.length = n := by simpa using hperm.length_eq
    rw [← hlength] at hperm
    exact ⟨hperm, hlength⟩

/-- The check of a permutation, in the order of tensor descriptions. -/
lemma checkPermute_ofInfo_iff (hcount : p.mappings.length < UInt32.size)
    (hrank : output.rank = input.rank) :
    checkPermute (.ofInfo input) (.ofInfo output) (.ofLayer p) = .ok () ↔
      output.dataType = input.dataType ∧
      (p.mappings.map UInt32.toNat).Perm (List.range input.rank) ∧
      ∀ i (hi : i < p.mappings.length),
        output.shape.dim? p.mappings[i].toNat = input.shape.dim? i := by
  rw [checkPermute_ok_iff, Operand.rank_ofInfo, ← fits_ofLayer_iff hcount]
  refine and_congr eq_comm (and_congr_right fun ⟨hvalid, hlength⟩ => ?_)
  rw [begins_permutedDims_iff hvalid, PermutationVector.forall_indices_ofLayer_iff hcount hvalid
    (Q := fun i j => (Operand.ofInfo output).dim j = (Operand.ofInfo input).dim i)]
  rw [PermutationVector.rank_ofLayer] at hlength
  refine forall₂_congr fun i hi => ?_
  have hplace : p.mappings[i].toNat < p.mappings.length :=
    ((PermutationVector.isValid_ofLayer_iff hcount).1 hvalid).1 _ (List.getElem_mem hi)
  rw [Operand.dim?_eq_some input (by omega), Operand.dim?_eq_some output (by omega),
    Option.some.injEq, hrank, hlength]

/-- **Supported permutations.**  Between tensors of one rank, a query about a permutation is
answered `.ok ()` exactly when the two have one type, the mappings are the indices of the dimensions
in some order, and each dimension of the input is found in the output where its mapping sends it.
So a mapping out of range, a mapping that occurs twice and a dimension that nothing goes to are
refused, whatever the rank. -/
theorem permute_supported_iff (p : Permute) (input output : TensorInfo)
    (hcount : p.mappings.length < UInt32.size) (hrank : output.rank = input.rank) :
    let support := Backend.standard.supportsOperation (.permute p input output)
    (support = .ok () ↔
      output.dataType = input.dataType ∧
      (p.mappings.map UInt32.toNat).Perm (List.range input.rank) ∧
      ∀ i (hi : i < p.mappings.length),
        output.shape.dim? p.mappings[i].toNat = input.shape.dim? i) ∧
    ((∃ d ∈ p.mappings, input.rank ≤ d.toNat) ∨ ¬p.mappings.Nodup ∨
        (∃ j < input.rank, ∀ d ∈ p.mappings, d.toNat ≠ j) →
      ∃ u, support = .error u) := by
  intro support
  have hsupport : support = .ok () ↔
      checkPermute (.ofInfo input) (.ofInfo output) (.ofLayer p) = .ok () :=
    (Backend.standard_query_eq_ok_iff rfl).trans Verdict.judgement_eq_ok_iff
  rw [checkPermute_ofInfo_iff hcount hrank] at hsupport
  refine ⟨hsupport, fun hbad => ?_⟩
  cases hanswer : support with
  | error u => exact ⟨u, rfl⟩
  | ok _ =>
      obtain ⟨-, hperm, -⟩ := hsupport.1 hanswer
      rcases hbad with ⟨d, hd, hrange⟩ | htwice | ⟨j, hj, hmissing⟩
      · have hd' := List.mem_range.1 (hperm.subset (List.mem_map_of_mem hd))
        exact absurd hd' (Nat.not_lt.2 hrange)
      · exact absurd (List.Nodup.of_map _ (hperm.nodup_iff.2 List.nodup_range)) htwice
      · obtain ⟨d, hd, hdj⟩ := List.mem_map.1 (hperm.mem_iff.2 (List.mem_range.2 hj))
        exact absurd hdj (hmissing d hd)

/-- Channels go behind the plane, which moves the other two dimensions forward.  Sending the
dimensions the other way round, or two of them to one place, is refused. -/
theorem permute_supported_iff_of_channels_last :
    let input : TensorInfo := ⟨⟨[1, 3, 4, 5]⟩, .float32, {}⟩
    let output : TensorInfo := ⟨⟨[1, 4, 5, 3]⟩, .float32, {}⟩
    let supports (mappings : List UInt32) : Support :=
      Backend.standard.supportsOperation (.permute ⟨mappings⟩ input output)
    supports [0, 3, 1, 2] = .ok () ∧ supports [0, 2, 3, 1] ≠ .ok () ∧
      ∃ u, supports [0, 3, 1, 3] = .error u := by
  intro input output supports
  obtain ⟨hthere, -⟩ := permute_supported_iff ⟨[0, 3, 1, 2]⟩ input output (by decide) rfl
  obtain ⟨hback, -⟩ := permute_supported_iff ⟨[0, 2, 3, 1]⟩ input output (by decide) rfl
  obtain ⟨-, htwice⟩ := permute_supported_iff ⟨[0, 3, 1, 3]⟩ input output (by decide) rfl
  exact ⟨hthere.2 (by decide), mt hback.1 (by decide), htwice (by decide)⟩

end NeuralBackend
