import NeuralBackend.Kernel.Permutation
import Mathlib.Data.List.Nodup
import Mathlib.Data.List.Perm.Subperm
import Mathlib.Tactic.Lemma

/-!
# Permutation vectors as permutations

A valid permutation vector sends the dimensions to places one to one, so that every place of the
output is reached.

* `PermutationVector.isValid_iff_perm`: the vector is valid exactly when its entries, as indices,
  are the indices in some order.
* `PermutationVector.source` is the dimension that goes to a place.  For a valid vector a condition
  on all dimensions and their places can be read as one on all places and their sources
  (`IsValid.forall_indices_iff`).
* The vector of a permute layer turns the mappings of the layer around twice: their order, and what
  each of them says.  It is valid exactly when the mappings are (`isValid_ofLayer_iff`), and a
  condition on its entries is one on the mappings (`forall_indices_ofLayer_iff`).
-/

namespace NeuralBackend.Kernel.PermutationVector

variable {p : PermutationVector}

/-- The entries as indices. -/
def indices (p : PermutationVector) : List Nat := p.entries.map UInt32.toNat

/-- The dimension that goes to place `j`. -/
def source (p : PermutationVector) (j : Nat) : Nat := p.indices.idxOf j

lemma length_indices : p.indices.length = p.rank := List.length_map _

lemma nodup_indices_iff : p.indices.Nodup ↔ p.entries.Nodup :=
  List.nodup_map_iff fun _ _ h => UInt32.toNat_inj.1 h

/-- A vector is valid when its entries are the indices in some order: there are as many entries as
indices, so distinct entries leave none out. -/
lemma isValid_iff_perm : p.IsValid ↔ p.indices.Perm (List.range p.rank) := by
  constructor
  · rintro ⟨hbound, hnodup⟩
    have hsub : p.indices ⊆ List.range p.rank := by
      intro d hd
      obtain ⟨entry, hentry, rfl⟩ := List.mem_map.1 hd
      exact List.mem_range.2 (hbound entry hentry)
    have hlength : (List.range p.rank).length = p.indices.length := by
      rw [List.length_range, length_indices]
    exact ((nodup_indices_iff.2 hnodup).subperm hsub).perm_of_length_le
      (Nat.le_of_eq hlength)
  · intro h
    refine ⟨fun entry hentry => ?_, nodup_indices_iff.1 (h.nodup_iff.2 List.nodup_range)⟩
    exact List.mem_range.1 (h.subset (List.mem_map_of_mem hentry))

/-- Every place is reached. -/
lemma IsValid.mem_indices (h : p.IsValid) {j : Nat} (hj : j < p.rank) : j ∈ p.indices :=
  (isValid_iff_perm.1 h).mem_iff.2 (List.mem_range.2 hj)

lemma IsValid.source_lt (h : p.IsValid) {j : Nat} (hj : j < p.rank) :
    p.source j < p.indices.length := List.idxOf_lt_length_of_mem (h.mem_indices hj)

/-- A dimension is the source of the place it goes to. -/
lemma IsValid.source_indices (h : p.IsValid) {i : Nat} (hi : i < p.indices.length) :
    p.source p.indices[i] = i := (nodup_indices_iff.2 h.2).idxOf_getElem i hi

lemma IsValid.indices_lt (h : p.IsValid) {i : Nat} (hi : i < p.indices.length) :
    p.indices[i] < p.rank := List.mem_range.1 ((isValid_iff_perm.1 h).subset (List.getElem_mem hi))

/-- What holds of every dimension and its place holds of every place and its source. -/
lemma IsValid.forall_indices_iff (h : p.IsValid) {Q : Nat → Nat → Prop} :
    (∀ i (hi : i < p.indices.length), Q i p.indices[i]) ↔ ∀ j < p.rank, Q (p.source j) j := by
  constructor
  · intro hall j hj
    have hlt := h.source_lt hj
    have hplace : p.indices[p.source j] = j := List.getElem_idxOf hlt
    have hsource := hall (p.source j) hlt
    rwa [hplace] at hsource
  · intro hall i hi
    have hplace := hall p.indices[i] (h.indices_lt hi)
    rwa [h.source_indices hi] at hplace

/-! ## The vector of a permute layer -/

section Opposite

variable {n : Nat} {d d' : UInt32}

lemma opposite_ofNat (hn : n < UInt32.size) :
    opposite (UInt32.ofNat n) d =
      if d.toNat < n then UInt32.ofNat (n - (d.toNat + 1)) else noDestination := by
  rw [opposite, UInt32.toNat_ofNat_of_lt' hn]

lemma toNat_opposite (hn : n < UInt32.size) (hd : d.toNat < n) :
    (opposite (UInt32.ofNat n) d).toNat = n - 1 - d.toNat := by
  have hsize : n - (d.toNat + 1) < UInt32.size := Nat.lt_of_le_of_lt (Nat.sub_le _ _) hn
  rw [opposite_ofNat hn, if_pos hd, UInt32.toNat_ofNat_of_lt' hsize]
  omega

lemma opposite_lt_iff (hn : n < UInt32.size) :
    (opposite (UInt32.ofNat n) d).toNat < n ↔ d.toNat < n := by
  by_cases hd : d.toNat < n
  · rw [toNat_opposite hn hd]
    omega
  · -- the largest word is not below `n`, which is a word itself
    rw [opposite_ofNat hn, if_neg hd]
    exact iff_of_false (Nat.not_lt.2 (Nat.le_of_lt_succ hn)) hd

lemma opposite_injOn (hn : n < UInt32.size) (hd : d.toNat < n) (hd' : d'.toNat < n)
    (h : opposite (UInt32.ofNat n) d = opposite (UInt32.ofNat n) d') : d = d' := by
  have hnat := congrArg UInt32.toNat h
  rw [toNat_opposite hn hd, toNat_opposite hn hd'] at hnat
  exact UInt32.toNat_inj.1 (by omega)

end Opposite

section Layer

variable {layer : Permute}

lemma rank_ofLayer : (ofLayer layer).rank = layer.mappings.length := by
  simp [rank, ofLayer]

/-- The vector is valid when the mappings are: what is no permutation does not become one. -/
lemma isValid_ofLayer_iff (hcount : layer.mappings.length < UInt32.size) :
    (ofLayer layer).IsValid ↔ (⟨layer.mappings⟩ : PermutationVector).IsValid := by
  have hbound : (∀ d ∈ (ofLayer layer).entries, d.toNat < (ofLayer layer).rank) ↔
      ∀ d ∈ layer.mappings, d.toNat < layer.mappings.length := by
    rw [rank_ofLayer, ofLayer, List.forall_mem_map]
    simp only [List.mem_reverse, opposite_lt_iff hcount]
  refine (and_congr_left' hbound).trans (and_congr_right fun hlt => ?_)
  -- below `n` no two destinations have one opposite, so none is lost and none is doubled
  rw [ofLayer, ← List.nodup_reverse (l := layer.mappings)]
  refine ⟨List.Nodup.of_map _, List.Nodup.map_on fun d hd d' hd' => ?_⟩
  exact opposite_injOn hcount (hlt d (List.mem_reverse.1 hd)) (hlt d' (List.mem_reverse.1 hd'))

/-- Entry `n - 1 - i` of the vector is what mapping `i` says, counted from the other end. -/
lemma getElem?_indices_ofLayer (hcount : layer.mappings.length < UInt32.size)
    (hvalid : (ofLayer layer).IsValid) {i : Nat} (hi : i < layer.mappings.length) :
    (ofLayer layer).indices[layer.mappings.length - 1 - i]? =
      some (layer.mappings.length - 1 - layer.mappings[i].toNat) := by
  have hlt := ((isValid_ofLayer_iff hcount).1 hvalid).1 _ (List.getElem_mem hi)
  have hplace : layer.mappings.length - 1 - (layer.mappings.length - 1 - i) = i := by omega
  rw [indices, ofLayer, List.getElem?_map, List.getElem?_map, List.getElem?_reverse (by omega),
    hplace, List.getElem?_eq_getElem hi, Option.map_some, Option.map_some,
    toNat_opposite hcount hlt]

/-- A condition on the entries of the vector and their places, as one on the mappings. -/
lemma forall_indices_ofLayer_iff (hcount : layer.mappings.length < UInt32.size)
    (hvalid : (ofLayer layer).IsValid) {Q : Nat → Nat → Prop} :
    (∀ i (hi : i < (ofLayer layer).indices.length), Q i (ofLayer layer).indices[i]) ↔
      ∀ i (hi : i < layer.mappings.length),
        Q (layer.mappings.length - 1 - i)
          (layer.mappings.length - 1 - layer.mappings[i].toNat) := by
  have hlength : (ofLayer layer).indices.length = layer.mappings.length :=
    length_indices.trans rank_ofLayer
  constructor
  · intro hall i hi
    obtain ⟨hlt, hentry⟩ :=
      List.getElem?_eq_some_iff.1 (getElem?_indices_ofLayer hcount hvalid hi)
    have hplace := hall _ hlt
    rwa [hentry] at hplace
  · intro hall i hi
    have hlt : layer.mappings.length - 1 - i < layer.mappings.length := by omega
    have hback : layer.mappings.length - 1 - (layer.mappings.length - 1 - i) = i := by omega
    have hmapping := getElem?_indices_ofLayer hcount hvalid hlt
    have hplace := hall _ hlt
    rw [hback] at hmapping hplace
    obtain ⟨_, hentry⟩ := List.getElem?_eq_some_iff.1 hmapping
    rwa [hentry]

end Layer

end NeuralBackend.Kernel.PermutationVector
