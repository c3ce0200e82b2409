import NeuralBackend.Layer.Parameters
import NeuralBackend.Tensor.Shape

/-!
# Permutation vectors

A permutation vector says where each dimension of an operand goes, innermost first.

* `PermutationVector.IsValid` holds of the vectors that are permutations: every entry is an index of
  the vector, and no entry occurs twice.
* `PermutationVector.ofLayer` turns the mappings of a permute layer, which count from the outside,
  around.  An entry that has no counterpart becomes the largest word, which is never an index.
-/

namespace NeuralBackend.Kernel

/-- The destination of each dimension, innermost first. -/
structure PermutationVector where
  entries : List UInt32
  deriving DecidableEq, Repr, Inhabited

namespace PermutationVector

/-- The number of dimensions permuted. -/
def rank (p : PermutationVector) : Nat := p.entries.length

/-- Every entry is an index of the vector, and no index occurs twice. -/
def IsValid (p : PermutationVector) : Prop :=
  (∀ d ∈ p.entries, d.toNat < p.rank) ∧ p.entries.Nodup

instance (p : PermutationVector) : Decidable p.IsValid :=
  inferInstanceAs (Decidable (_ ∧ _))

/-- The entry that stands for a mapping without a counterpart. -/
def noDestination : UInt32 := 0xffffffff

/-- Destination `dest` of `rank` dimensions, counted from the other end. -/
def opposite (rank dest : UInt32) : UInt32 :=
  if dest.toNat < rank.toNat then UInt32.ofNat (rank.toNat - (dest.toNat + 1)) else noDestination

/-- The vector that does what the mappings of a permute layer ask for. -/
def ofLayer (p : Permute) : PermutationVector where
  entries := p.mappings.reverse.map (opposite (UInt32.ofNat p.mappings.length))

/-- The vector as messages show it. -/
def text (p : PermutationVector) : String :=
  "PermutationVector(" ++ dimensionsText p.entries ++ ")"

end PermutationVector

end NeuralBackend.Kernel
