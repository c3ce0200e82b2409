import NeuralBackend.Kernel.Operand
import Mathlib.Data.List.GetD
import Mathlib.Data.List.TakeWhile
import Mathlib.Tactic.Lemma

/-!
# Shapes as the kernel library reads them

The kernel library reads a dimension beyond the rank as one, so an operand has a dimension at every
index, and two operands may have the same shape without having the same rank.

* `Operand.sameShape_iff` takes the bound out of the comparison: same shape means equal dimensions
  at every index.
* `Operand.Begins` says what the innermost dimensions of an operand are.  It is what the checks of a
  computed output look at; `Operand.Begins.sameShape_iff` says what they leave open.
* `Shape.innermost` lists the innermost dimensions in the order of a tensor description, outermost
  first.  `Operand.begins_ofInfo_iff` and `Shape.dims_eq_iff` carry a condition on an operand over
  to the description it comes from.
* `Shape.core` is a shape without its leading ones.  **`Operand.sameShape_ofInfo_iff`**: that is all
  the kernel library sees of the shape of a tensor description.
-/

namespace NeuralBackend

/-- The dimensions of a shape, from the first that is not one. -/
def Shape.core (s : Shape) : List UInt32 := s.dims.dropWhile (· == 1)

/-- The `n` innermost dimensions of a shape, outermost first.  An outer dimension that the shape
does not have is one. -/
def Shape.innermost (s : Shape) (n : Nat) : List UInt32 :=
  (s.dims.drop (s.rank - n)).leftpad n 1

lemma Shape.innermost_rank (s : Shape) : s.innermost s.rank = s.dims := by
  simp [innermost, List.leftpad, rank]

/-- A shape has given dimensions when it has as many and its innermost ones are these. -/
lemma Shape.dims_eq_iff {s : Shape} {dims : List UInt32} :
    s.dims = dims ↔ s.rank = dims.length ∧ s.innermost dims.length = dims := by
  constructor
  · rintro rfl
    exact ⟨rfl, s.innermost_rank⟩
  · rintro ⟨hrank, hdims⟩
    rw [← hdims, ← hrank, innermost_rank]

namespace Kernel.Operand

/-! ## Dimensions at every index -/

lemma dim_eq_getElem {x : Operand} {i : Nat} (h : i < x.dims.length) : x.dim i = x.dims[i] :=
  List.getD_eq_getElem _ _ h

lemma dim_of_rank_le {x : Operand} {i : Nat} (h : x.rank ≤ i) : x.dim i = 1 :=
  List.getD_eq_default _ _ h

/-- Two operands have one shape when they agree at every index, within the ranks or beyond. -/
lemma sameShape_iff {x y : Operand} : x.sameShape y = true ↔ ∀ i, x.dim i = y.dim i := by
  simp only [sameShape, List.all_eq_true, List.mem_range, beq_iff_eq]
  constructor
  · intro h i
    by_cases hi : i < Nat.max x.rank y.rank
    · exact h i hi
    · have hx : x.rank ≤ i := le_trans (Nat.le_max_left _ _) (not_lt.1 hi)
      have hy : y.rank ≤ i := le_trans (Nat.le_max_right _ _) (not_lt.1 hi)
      rw [dim_of_rank_le hx, dim_of_rank_le hy]
  · intro h i _
    exact h i

/-! ## Innermost dimensions -/

/-- The innermost dimensions of the operand are `dims`; nothing is said about the others. -/
def Begins (x : Operand) (dims : List UInt32) : Prop :=
  ∀ i < dims.length, x.dim i = dims.getD i 1

instance (x : Operand) (dims : List UInt32) : Decidable (x.Begins dims) :=
  inferInstanceAs (Decidable (∀ i < dims.length, x.dim i = dims.getD i 1))

/-- The comparison of a computed output reads its innermost dimensions one by one. -/
lemma begins_iff_map {x : Operand} {dims : List UInt32} :
    x.Begins dims ↔ (List.range dims.length).map x.dim = dims := by
  constructor
  · intro h
    refine List.ext_getElem (by simp) fun i hi hi' => ?_
    rw [List.getElem_map, List.getElem_range, h i hi', List.getD_eq_getElem _ _ hi']
  · intro h i hi
    rw [← h, List.getD_eq_getElem _ _ (by simpa using hi), List.getElem_map, List.getElem_range]

/-- Innermost dimensions that are listed by a function of the index. -/
lemma begins_map_range_iff {x : Operand} {n : Nat} {f : Nat → UInt32} :
    x.Begins ((List.range n).map f) ↔ ∀ j < n, x.dim j = f j := by
  rw [begins_iff_map, List.length_map, List.length_range, List.map_inj_left]
  simp only [List.mem_range]

/-- Two operands with the same innermost dimensions agree there. -/
lemma Begins.dim_eq {x y : Operand} {dims : List UInt32} (hx : x.Begins dims) (hy : y.Begins dims)
    {i : Nat} (hi : i < dims.length) : x.dim i = y.dim i := (hx i hi).trans (hy i hi).symm

/-- Two operands with the same innermost dimensions have one shape when they agree in the others. -/
lemma Begins.sameShape_iff {x y : Operand} {dims : List UInt32} (hx : x.Begins dims)
    (hy : y.Begins dims) :
    x.sameShape y = true ↔ ∀ i, dims.length ≤ i → x.dim i = y.dim i := by
  rw [Operand.sameShape_iff]
  constructor
  · intro h i _
    exact h i
  · intro h i
    by_cases hi : i < dims.length
    · exact hx.dim_eq hy hi
    · exact h i (not_lt.1 hi)

/-! ## Outermost first -/

/-- The innermost dimensions of a description, turned around: what there is, then ones. -/
lemma reverse_innermost_eq_append (s : Shape) (n : Nat) :
    (s.innermost n).reverse = s.dims.reverse.take n ++ List.replicate (n - s.rank) 1 := by
  have htake : s.dims.reverse.take (s.dims.length - (s.rank - n)) = s.dims.reverse.take n := by
    rw [List.take_eq_take_iff, List.length_reverse, Shape.rank]
    omega
  have hones : n - (s.dims.length - (s.rank - n)) = n - s.rank := by
    rw [Shape.rank]
    omega
  rw [Shape.innermost, List.leftpad, List.reverse_append, List.reverse_replicate,
    List.reverse_drop, List.length_drop, htake, hones]

/-- An operand reads the innermost dimensions of its description from the other end. -/
lemma reverse_innermost (info : TensorInfo) (n : Nat) :
    (info.shape.innermost n).reverse = (List.range n).map (ofInfo info).dim := by
  rw [reverse_innermost_eq_append]
  refine List.ext_getElem ?_ fun i hi hi' => ?_
  · simp only [List.length_append, List.length_take, List.length_reverse, List.length_replicate,
      List.length_map, List.length_range, Shape.rank]
    omega
  · rw [List.length_map, List.length_range] at hi'
    rw [List.getElem_map, List.getElem_range, List.getElem_append]
    split
    · next h =>
      rw [List.getElem_take]
      exact (dim_eq_getElem (x := ofInfo info) _).symm
    · next h =>
      rw [List.length_take, Nat.lt_min] at h
      rw [List.getElem_replicate]
      exact (dim_of_rank_le (x := ofInfo info) (not_lt.1 fun hlt => h ⟨hi', hlt⟩)).symm

/-- The innermost dimensions of an operand are those of its description, from the other end. -/
lemma begins_ofInfo_iff {info : TensorInfo} {dims : List UInt32} :
    (ofInfo info).Begins dims ↔ info.shape.innermost dims.length = dims.reverse := by
  rw [begins_iff_map, ← reverse_innermost, List.reverse_eq_iff]

lemma rank_ofInfo (info : TensorInfo) : (ofInfo info).rank = info.rank := List.length_reverse

/-- Dimension `i` of a description is dimension `rank - 1 - i` of its operand. -/
lemma dim?_eq_some (info : TensorInfo) {i : Nat} (hi : i < info.rank) :
    info.shape.dim? i = some ((ofInfo info).dim (info.rank - 1 - i)) := by
  have hlt : info.rank - 1 - i < info.rank := by omega
  have hback : info.rank - 1 - (info.rank - 1 - i) = i := by omega
  have hdim : (ofInfo info).dims[info.rank - 1 - i]? = info.shape.dims[i]? := by
    rw [ofInfo, List.getElem?_reverse hlt]
    exact congrArg (info.shape.dims[·]?) hback
  have hlt' : info.rank - 1 - i < (ofInfo info).dims.length := hlt.trans_eq (rank_ofInfo info).symm
  rw [Shape.dim?, ← hdim, dim_eq_getElem hlt', List.getElem?_eq_getElem hlt']

/-- The four innermost dimensions of an activation, or of weights. -/
lemma innermost_four (info : TensorInfo) :
    info.shape.innermost 4 =
      [(ofInfo info).batch, (ofInfo info).channels, (ofInfo info).height, (ofInfo info).width] := by
  rw [← List.reverse_inj, reverse_innermost]
  rfl

lemma innermost_four_eq_iff {info : TensorInfo} {n c h w : UInt32} :
    info.shape.innermost 4 = [n, c, h, w] ↔
      (ofInfo info).batch = n ∧ (ofInfo info).channels = c ∧ (ofInfo info).height = h ∧
      (ofInfo info).width = w := by
  rw [innermost_four]
  simp only [List.cons.injEq, and_true]

/-- A vector of `length` elements has that one dimension. -/
lemma vector_iff {x : Operand} {length : UInt32} :
    x.rank = 1 ∧ x.dim 0 = length ↔ x.dims = [length] := by
  rw [rank, dim, List.length_eq_one_iff]
  constructor
  · rintro ⟨⟨d, h⟩, hlength⟩
    simpa [h] using hlength
  · intro h
    simp [h]

lemma vector_ofInfo_iff {info : TensorInfo} {length : UInt32} :
    (ofInfo info).rank = 1 ∧ (ofInfo info).dim 0 = length ↔ info.shape.dims = [length] := by
  rw [vector_iff, ofInfo, List.reverse_eq_iff]
  rfl

/-! ## Leading ones -/

/-- An operand of the larger rank that agrees with another one has ones in front of it. -/
lemma dims_eq_append_ones {x y : Operand} (h : ∀ i, x.dim i = y.dim i) (hrank : x.rank ≤ y.rank) :
    y.dims = x.dims ++ List.replicate (y.rank - x.rank) 1 := by
  refine List.ext_getElem ?_ fun i hi hi' => ?_
  · rw [List.length_append, List.length_replicate]
    exact (Nat.add_sub_of_le hrank).symm
  · rw [← dim_eq_getElem hi, ← h i, List.getElem_append]
    split
    · next hx => exact dim_eq_getElem hx
    · next hx =>
      rw [List.getElem_replicate]
      exact dim_of_rank_le (not_lt.1 hx)

/-- Ones at the end of a list of dimensions are not seen. -/
lemma getD_append_ones {dims ones : List UInt32} (h : ∀ d ∈ ones, d = 1) (i : Nat) :
    (dims ++ ones).getD i 1 = dims.getD i 1 := by
  by_cases hi : i < dims.length
  · exact List.getD_append _ _ _ _ hi
  · rw [List.getD_append_right _ _ _ _ (not_lt.1 hi), List.getD_eq_default dims _ (not_lt.1 hi)]
    by_cases hj : i - dims.length < ones.length
    · rw [List.getD_eq_getElem _ _ hj]
      exact h _ (List.getElem_mem hj)
    · exact List.getD_eq_default _ _ (not_lt.1 hj)

/-- The dimensions of an operand come from the core of the shape alone. -/
lemma dim_ofInfo (info : TensorInfo) (i : Nat) :
    (ofInfo info).dim i = info.shape.core.reverse.getD i 1 := by
  have hsplit : info.shape.dims.takeWhile (· == 1) ++ info.shape.core = info.shape.dims :=
    List.takeWhile_append_dropWhile
  have hones : ∀ d ∈ (info.shape.dims.takeWhile (· == 1)).reverse, d = 1 := by
    intro d hd
    have hone := List.mem_takeWhile_imp (List.mem_reverse.1 hd)
    exact eq_of_beq hone
  show info.shape.dims.reverse.getD i 1 = _
  rw [← hsplit, List.reverse_append]
  exact getD_append_ones hones i

/-- Descriptions that agree at every index have one core.  By symmetry the second has the larger
rank, and then it differs by leading ones. -/
lemma core_eq_of_dim_eq {x y : TensorInfo} (h : ∀ i, (ofInfo x).dim i = (ofInfo y).dim i)
    (hrank : (ofInfo x).rank ≤ (ofInfo y).rank) : x.shape.core = y.shape.core := by
  have happend := congrArg List.reverse (dims_eq_append_ones h hrank)
  simp only [ofInfo, List.reverse_append, List.reverse_reverse, List.reverse_replicate] at happend
  rw [Shape.core, Shape.core, happend, List.dropWhile_append_of_pos]
  intro d hd
  exact beq_iff_eq.2 (List.eq_of_mem_replicate hd)

/-- **Same shape up to leading ones.**  Two tensor descriptions have the same shape for the kernel
library exactly when their shapes are equal once leading ones are dropped. -/
theorem sameShape_ofInfo_iff {x y : TensorInfo} :
    (ofInfo x).sameShape (ofInfo y) = true ↔ x.shape.core = y.shape.core := by
  rw [sameShape_iff]
  constructor
  · intro h
    rcases Nat.le_total (ofInfo x).rank (ofInfo y).rank with hrank | hrank
    · exact core_eq_of_dim_eq h hrank
    · exact (core_eq_of_dim_eq (fun i => (h i).symm) hrank).symm
  · intro h i
    rw [dim_ofInfo, dim_ofInfo, h]

end Kernel.Operand

end NeuralBackend
