import NeuralBackend.Proofs.Kernel.Overrun
import Mathlib.Algebra.Group.End
import Mathlib.Data.Fin.Rev
import Mathlib.Data.Fintype.EquivFin

/-!
# The vector of a permute layer as a conjugate

The vector of a permute layer turns the mappings of the layer around twice, their order and what
each of them says.  As functions on `n` dimensions the vector and the mappings are conjugate by the
reversal of the dimensions, and everything about the algebra of these vectors comes from that.

**Vectors and permutations.**  `ofPerm σ` lists the values of a permutation of `Fin n`.  The valid
vectors are those of this form (`IsValid.exists_ofPerm`).  Putting one vector behind another
(`followedBy`), undoing one (`inverse`) and leaving everything where it is (`identity`) are defined
on the entries, and on the vectors of this form they are the product, the inverse and the one of the
group of permutations.

**Building.**  `ofLayer_ofPerm`: the vector built from `σ` is that of the conjugate `mirror σ`.
Conjugation respects products and inverses, and conjugating twice with the reversal is conjugating
with its square, which is one (`mirror_mirror`).

**`building_mirrors`** is what comes of it for the entries.
-/

namespace NeuralBackend.Kernel.PermutationVector

/-! ## The algebra of vectors -/

/-- One vector after another: a dimension goes where `q` sends the place that `p` sends it to.  From
a place that `q` does not have it goes nowhere. -/
def followedBy (p q : PermutationVector) : PermutationVector where
  entries := p.entries.map fun d => q.entries.getD d.toNat noDestination

/-- The vector that undoes another one: a place goes back to the dimension it came from. -/
def inverse (p : PermutationVector) : PermutationVector where
  entries := (List.range p.rank).map fun j => UInt32.ofNat (p.source j)

/-- The vector that leaves each of `n` dimensions in its place. -/
def identity (n : Nat) : PermutationVector where
  entries := (List.range n).map UInt32.ofNat

/-! ## Vectors of permutations -/

section OfPerm

variable {n : Nat} {σ τ : Equiv.Perm (Fin n)}

/-- The vector that sends each dimension where `σ` sends it. -/
def ofPerm (σ : Equiv.Perm (Fin n)) : PermutationVector where
  entries := List.ofFn fun i => UInt32.ofNat (σ i)

@[simp] lemma rank_ofPerm : (ofPerm σ).rank = n := by simp [rank, ofPerm]

lemma ext_indices {p q : PermutationVector} (h : p.indices = q.indices) : p = q := by
  have hentries : p.entries = q.entries :=
    (List.map_injective_iff.2 fun _ _ hnat => UInt32.toNat_inj.1 hnat) h
  cases p
  cases q
  exact congrArg mk hentries

/-- A place below `n` is a word when `n` is. -/
lemma toNat_ofNat_val (hn : n < UInt32.size) (i : Fin n) : (UInt32.ofNat i).toNat = i :=
  UInt32.toNat_ofNat_of_lt' (i.isLt.trans hn)

lemma indices_ofPerm (hn : n < UInt32.size) :
    (ofPerm σ).indices = List.ofFn fun i => (σ i : Nat) := by
  rw [indices, ofPerm, List.map_ofFn]
  exact congrArg List.ofFn (funext fun i => toNat_ofNat_val hn (σ i))

/-- A vector is that of a permutation when it has its values as indices. -/
lemma eq_ofPerm_of_indices (hn : n < UInt32.size) {p : PermutationVector}
    (h : p.indices = List.ofFn fun i => (σ i : Nat)) : p = ofPerm σ :=
  ext_indices (h.trans (indices_ofPerm hn).symm)

/-- Every valid vector is that of a permutation: an injective function on `n` places hits all. -/
lemma IsValid.exists_ofPerm {p : PermutationVector} (h : p.IsValid) (hrank : p.rank = n)
    (hn : n < UInt32.size) : ∃ σ : Equiv.Perm (Fin n), p = ofPerm σ := by
  subst hrank
  have hlength : p.indices.length = p.rank := length_indices
  let f : Fin p.rank → Fin p.rank := fun i =>
    ⟨p.indices.get (i.cast hlength.symm), h.indices_lt _⟩
  have hinjective : Function.Injective f := by
    intro i j hij
    have hindex := congrArg Fin.val hij
    exact Fin.ext ((nodup_indices_iff.2 h.2).getElem_inj_iff.1 hindex)
  refine ⟨Equiv.ofBijective f (Finite.injective_iff_bijective.1 hinjective),
    eq_ofPerm_of_indices hn ?_⟩
  refine List.ext_getElem (by simp [hlength]) fun i hi hi' => ?_
  simp [f]

/-- The place after two vectors is that after the product. -/
lemma followedBy_ofPerm (hn : n < UInt32.size) :
    (ofPerm σ).followedBy (ofPerm τ) = ofPerm (τ * σ) := by
  simp only [followedBy, ofPerm, List.map_ofFn, mk.injEq, List.ofFn_inj]
  funext i
  simp [toNat_ofNat_val hn]

/-- The dimension that comes to a place is the one that the inverse sends it to. -/
lemma source_ofPerm (hn : n < UInt32.size) (j : Fin n) : (ofPerm σ).source j = σ⁻¹ j := by
  have hnodup : (List.ofFn fun i => (σ i : Nat)).Nodup :=
    List.nodup_ofFn.2 (Fin.val_injective.comp σ.injective)
  have hi : (σ⁻¹ j : Nat) < (List.ofFn fun i => (σ i : Nat)).length := by simp
  have hplace := hnodup.idxOf_getElem (σ⁻¹ j) hi
  simpa [source, indices_ofPerm hn] using hplace

lemma inverse_ofPerm (hn : n < UInt32.size) : (ofPerm σ).inverse = ofPerm σ⁻¹ := by
  refine eq_ofPerm_of_indices hn (List.ext_getElem (by simp [inverse, indices]) fun i hi hi' => ?_)
  have hlt : i < n := by simpa using hi'
  have hsource : (ofPerm σ).source i = σ⁻¹ ⟨i, hlt⟩ := source_ofPerm hn ⟨i, hlt⟩
  simp [inverse, indices, hsource, toNat_ofNat_val hn]

lemma identity_eq_ofPerm (n : Nat) : identity n = ofPerm (1 : Equiv.Perm (Fin n)) := by
  simp only [identity, ofPerm, mk.injEq]
  exact List.ext_getElem (by simp) (by simp)

/-! ## Building -/

/-- The permutation seen from the other end: reverse, permute, and reverse back. -/
def mirror : Equiv.Perm (Fin n) →* Equiv.Perm (Fin n) :=
  (MulAut.conj Fin.revPerm).toMonoidHom

lemma mirror_apply (i : Fin n) : mirror σ i = (σ i.rev).rev := rfl

lemma mirror_mirror : mirror (mirror σ) = σ := by
  ext i
  simp [mirror_apply]

/-- A list of values, turned around. -/
lemma reverse_ofFn {α : Type} (f : Fin n → α) :
    (List.ofFn f).reverse = List.ofFn fun i => f i.rev := by
  refine List.ext_getElem (by simp) fun i hi hi' => ?_
  simp only [List.getElem_reverse, List.getElem_ofFn, List.length_ofFn]
  congr 1
  ext
  simp [Fin.val_rev]
  omega

/-- The opposite of a place, counted from the other end, is the reversed place. -/
lemma opposite_ofNat_val (hn : n < UInt32.size) (i : Fin n) :
    opposite (UInt32.ofNat n) (UInt32.ofNat i) = UInt32.ofNat i.rev := by
  rw [opposite_ofNat hn, toNat_ofNat_val hn, if_pos i.isLt, Fin.val_rev]

/-- The vector built from the mappings of a permutation is that of the mirrored permutation. -/
lemma ofLayer_ofPerm (hn : n < UInt32.size) :
    ofLayer ⟨(ofPerm σ).entries⟩ = ofPerm (mirror σ) := by
  simp only [ofLayer, ofPerm, List.length_ofFn, reverse_ofFn, List.map_ofFn, mk.injEq,
    List.ofFn_inj]
  funext i
  exact opposite_ofNat_val hn (σ i.rev)

/-- Entry `j` of the mirrored vector is entry `n - 1 - j`, counted from the other end. -/
lemma getElem?_indices_mirror (hn : n < UInt32.size) {j : Nat} (hj : j < n) :
    (ofPerm (mirror σ)).indices[j]? =
      (ofPerm σ).indices[n - 1 - j]?.map fun d => n - 1 - d := by
  have hlt : n - 1 - j < n := by omega
  have hrev : Fin.rev ⟨j, hj⟩ = ⟨n - 1 - j, hlt⟩ := by
    ext
    simp [Fin.val_rev]
    omega
  rw [indices_ofPerm hn, indices_ofPerm hn]
  simp [hj, hlt, mirror_apply, hrev, Fin.val_rev]
  omega

end OfPerm

/-- **Building mirrors.**  The scan accepts exactly the vectors whose entries are the indices in
some order.  For every list of mappings that a word can count, the vector built from it is accepted
exactly when the mappings are, and then entry `j` of the vector is what mapping `n - 1 - j` says,
counted from the other end.  Building again gives the mappings back.  Building respects the algebra
of permutations: what undoes the mappings undoes the vector, and mappings one after the other give
vectors one after the other. -/
theorem building_mirrors :
    let build (p : PermutationVector) : PermutationVector := ofLayer ⟨p.entries⟩
    (∀ p : PermutationVector, p.scan = true ↔ p.indices.Perm (List.range p.rank)) ∧
    ∀ p : PermutationVector, p.rank < UInt32.size →
      ((build p).scan = true ↔ p.indices.Perm (List.range p.rank)) ∧
      (p.indices.Perm (List.range p.rank) →
        (∀ j < p.rank, (build p).indices[j]? =
          p.indices[p.rank - 1 - j]?.map fun d => p.rank - 1 - d) ∧
        build (build p) = p ∧
        p.followedBy p.inverse = identity p.rank ∧ p.inverse.followedBy p = identity p.rank ∧
        build p.inverse = (build p).inverse ∧
        ∀ q : PermutationVector, q.indices.Perm (List.range p.rank) →
          build (p.followedBy q) = (build p).followedBy (build q)) := by
  intro build
  have hscan : ∀ p : PermutationVector, p.scan = true ↔ p.indices.Perm (List.range p.rank) :=
    fun p => scan_iff.trans isValid_iff_perm
  refine ⟨hscan, fun p hp => ⟨?_, fun hperm => ?_⟩⟩
  · have hvalid : (ofLayer ⟨p.entries⟩).IsValid ↔ p.IsValid := isValid_ofLayer_iff hp
    rw [scan_iff, ← isValid_iff_perm]
    exact hvalid
  · obtain ⟨n, hrank⟩ : ∃ n, p.rank = n := ⟨_, rfl⟩
    have hvalid := isValid_iff_perm.2 hperm
    rw [hrank] at hp ⊢
    obtain ⟨σ, rfl⟩ := hvalid.exists_ofPerm hrank hp
    have hbuild : ∀ τ : Equiv.Perm (Fin n), build (ofPerm τ) = ofPerm (mirror τ) :=
      fun τ => ofLayer_ofPerm hp
    rw [hbuild, hbuild, mirror_mirror, inverse_ofPerm hp, inverse_ofPerm hp, hbuild, map_inv,
      followedBy_ofPerm hp, followedBy_ofPerm hp, inv_mul_cancel, mul_inv_cancel,
      identity_eq_ofPerm]
    refine ⟨fun j hj => getElem?_indices_mirror hp hj, rfl, rfl, rfl, rfl, fun q hq => ?_⟩
    have hcount : q.rank = n := by
      rw [← length_indices, hq.length_eq, List.length_range]
    obtain ⟨τ, rfl⟩ := (isValid_iff_perm.2 (hcount.symm ▸ hq)).exists_ofPerm hcount hp
    rw [followedBy_ofPerm hp, hbuild, hbuild, followedBy_ofPerm hp, map_mul]

/-- Channels go behind the plane, and then height and width change places.  A mapping beyond the
dimensions has no counterpart, and the vector built from it is not accepted. -/
theorem building_mirrors_of_channels_last :
    let build (p : PermutationVector) : PermutationVector := ofLayer ⟨p.entries⟩
    let p : PermutationVector := ⟨[0, 3, 1, 2]⟩
    let q : PermutationVector := ⟨[0, 2, 1, 3]⟩
    p.indices.Perm (List.range p.rank) ∧ build p = ⟨[1, 2, 0, 3]⟩ ∧ (build p).scan = true ∧
      build (build p) = p ∧ build p.inverse = (build p).inverse ∧
      build (p.followedBy q) = (build p).followedBy (build q) ∧
      (build ⟨[0, 4, 1, 2]⟩).scan = false := by
  intro build p q
  have hp : p.indices.Perm (List.range p.rank) := by decide
  have hq : q.indices.Perm (List.range p.rank) := by decide
  obtain ⟨-, hbuild⟩ := building_mirrors
  obtain ⟨haccepted, hmirror⟩ := hbuild p (by decide)
  obtain ⟨-, hback, -, -, hinverse, hfollowed⟩ := hmirror hp
  obtain ⟨hrefused, -⟩ := hbuild ⟨[0, 4, 1, 2]⟩ (by decide)
  exact ⟨hp, by decide, haccepted.2 hp, hback, hinverse, hfollowed q hq,
    Bool.eq_false_iff.2 fun h => absurd (hrefused.1 h) (by decide)⟩

end NeuralBackend.Kernel.PermutationVector
