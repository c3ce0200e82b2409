import NeuralBackend.Proofs.Kernel.Check.Rearranged
import NeuralBackend.Proofs.Support.Judgement
import Mathlib.Algebra.BigOperators.Ring.List
import Mathlib.Algebra.Order.BigOperators.GroupWithZero.List
import Mathlib.Algebra.Order.Ring.Nat

/-!
# Products of dimensions

Two numbers are products of dimensions: the element count of a shape, which has to fit 64 bits, and
the feature count of the input of a fully connected layer, which has to fit a word.  Both are taken
one dimension after the other, and both are given up at the first partial product that does not fit.

**Partial products.**  They grow up to the first empty dimension and are zero from there on.  So it
is the part in front of that dimension (`upToZero`) that decides whether they all fit, while the
number itself is the product of all dimensions.  `foldlM_fits_eq` is this for any numbers below a
limit; `Shape.elementCount?_eq` and `Kernel.featureCount?_eq` are its two instances.

**What does not fit.**  Without an empty dimension a product is given up exactly when it is too
large.  With one it is zero, and it is given up all the same where the part in front is too large.
**`counts_given_up_iff`** states both for the element count and for the refusal of a fully connected
layer.
-/

namespace NeuralBackend

/-- The product of dimensions over the natural numbers. -/
def product (dims : List UInt32) : Nat := (dims.map UInt32.toNat).prod

/-- The dimensions in front of the first empty one. -/
def upToZero (dims : List UInt32) : List UInt32 := dims.takeWhile (· ≠ 0)

variable {dims : List UInt32} {d : UInt32}

lemma product_cons : product (d :: dims) = d.toNat * product dims := by
  rw [product, List.map_cons, List.prod_cons, product]

lemma product_of_perm {dims' : List UInt32} (h : dims.Perm dims') : product dims = product dims' :=
  (h.map UInt32.toNat).prod_eq

lemma product_eq_zero (h : 0 ∈ dims) : product dims = 0 := by
  rw [product]
  exact List.prod_eq_zero (List.mem_map.2 ⟨0, h, UInt32.toNat_zero⟩)

lemma upToZero_zero_cons : upToZero (0 :: dims) = [] := List.takeWhile_cons_of_neg (by simp)

lemma upToZero_cons (h : d ≠ 0) : upToZero (d :: dims) = d :: upToZero dims :=
  List.takeWhile_cons_of_pos (by simpa using h)

lemma upToZero_of_not_mem (h : 0 ∉ dims) : upToZero dims = dims := by
  rw [upToZero, List.takeWhile_eq_self_iff]
  intro d hd
  rw [decide_eq_true_eq]
  rintro rfl
  exact h hd

lemma toNat_pos (h : d ≠ 0) : 0 < d.toNat := by
  rw [Nat.pos_iff_ne_zero, ← UInt32.toNat_zero, Ne, UInt32.toNat_inj]
  exact h

/-- No dimension in front of the first empty one is empty. -/
lemma product_upToZero_pos (dims : List UInt32) : 0 < product (upToZero dims) := by
  refine List.prod_pos fun n hn => ?_
  obtain ⟨d, hd, rfl⟩ := List.mem_map.1 hn
  have hne := List.mem_takeWhile_imp hd
  rw [decide_eq_true_eq] at hne
  exact toNat_pos hne

/-- The product of all dimensions is that of the part in front of an empty one, or zero. -/
lemma product_le_product_upToZero : product dims ≤ product (upToZero dims) := by
  induction dims with
  | nil => exact le_refl _
  | cons d dims ih =>
      by_cases hd : d = 0
      · rw [hd, product_cons, UInt32.toNat_zero, Nat.zero_mul]
        exact Nat.zero_le _
      · rw [upToZero_cons hd, product_cons, product_cons]
        exact Nat.mul_le_mul_left _ ih

/-! ## Products that are given up -/

/-- A product of dimensions in numbers below a limit.  `fits?` turns a natural number into such a
number, if there is one with that value. -/
lemma foldlM_fits_eq {α : Type} (limit : Nat) (value : α → Nat) (fits? : Nat → Option α)
    (hself : ∀ {a}, value a < limit → fits? (value a) = some a)
    (hvalue : ∀ {n a}, fits? n = some a → value a = n) (hnone : ∀ {n}, fits? n = none ↔ limit ≤ n)
    (dims : List UInt32) {count : α} (hcount : value count < limit) :
    dims.foldlM (fun count d => fits? (value count * d.toNat)) count =
      if value count * product (upToZero dims) < limit then fits? (value count * product dims)
      else none := by
  induction dims generalizing count with
  | nil =>
      have hone : value count * product [] = value count := Nat.mul_one _
      rw [upToZero, List.takeWhile_nil, hone, if_pos hcount, hself hcount]
      rfl
  | cons d dims ih =>
      rw [List.foldlM_cons, product_cons, ← Nat.mul_assoc]
      by_cases hd : d = 0
      · -- the count is zero from here on
        rw [hd, upToZero_zero_cons, UInt32.toNat_zero, Nat.mul_zero]
        obtain ⟨zero, hzero⟩ := Option.ne_none_iff_exists'.1
          (mt hnone.1 (Nat.not_le.2 (Nat.zero_lt_of_lt hcount)))
        have hempty : value zero = 0 := hvalue hzero
        have hfits : value count * product [] < limit := by
          rwa [product, List.map_nil, List.prod_nil, Nat.mul_one]
        rw [hzero, Option.bind_eq_bind, Option.bind_some, ih (by omega), hempty, if_pos hfits]
        simp only [Nat.zero_mul, if_pos (Nat.zero_lt_of_lt hcount)]
      · rw [upToZero_cons hd, product_cons, ← Nat.mul_assoc]
        cases hnext : fits? (value count * d.toNat) with
        | none =>
            have hlarge : limit ≤ value count * d.toNat := hnone.1 hnext
            have hgrows := Nat.le_mul_of_pos_right (value count * d.toNat)
              (product_upToZero_pos dims)
            rw [if_neg (Nat.not_lt.2 (Nat.le_trans hlarge hgrows))]
            rfl
        | some next =>
            have hnext' : value next = value count * d.toNat := hvalue hnext
            have hsmall : value next < limit := by
              rw [hnext', ← Nat.not_le, ← hnone, hnext]
              simp
            rw [Option.bind_eq_bind, Option.bind_some, ih hsmall, hnext']

/-! ## Element counts -/

/-- An element count is the product of the dimensions; it is given up where the part in front of an
empty dimension does not fit. -/
lemma Shape.elementCount?_eq (s : Shape) :
    s.elementCount? =
      if product (upToZero s.dims) < countLimit then some (product s.dims) else none := by
  have hfold := foldlM_fits_eq countLimit id (fun n => if n < countLimit then some n else none)
    (fun h => if_pos h) (fun h => (Option.some.inj (Option.ite_none_right_eq_some.1 h).2).symm)
    (by simp) s.dims (show id 1 < countLimit by decide)
  have hfront : id 1 * product (upToZero s.dims) = product (upToZero s.dims) := Nat.one_mul _
  have hall : id 1 * product s.dims = product s.dims := Nat.one_mul _
  rw [hfront, hall] at hfold
  refine hfold.trans ?_
  split_ifs with hsmall hproduct
  · rfl
  · exact absurd (Nat.lt_of_le_of_lt product_le_product_upToZero hsmall) hproduct
  · rfl

lemma Shape.elementCount?_eq_some_iff {s : Shape} {n : Nat} :
    s.elementCount? = some n ↔
      product s.dims = n ∧ product (upToZero s.dims) < UInt64.size := by
  rw [elementCount?_eq, Option.ite_none_right_eq_some, Option.some.injEq, and_comm]
  rfl

lemma Shape.elementCount?_eq_none_iff {s : Shape} :
    s.elementCount? = none ↔ UInt64.size ≤ product (upToZero s.dims) := by
  rw [elementCount?_eq, ite_eq_right_iff]
  simp [countLimit]

namespace Kernel

/-! ## Feature counts -/

/-- A feature count is the product of all dimensions but the outermost; it is given up where the
part in front of an empty dimension, from the inside, is no word. -/
lemma featureCount?_eq (input : Operand) :
    featureCount? input =
      if product (upToZero input.dims.dropLast) < UInt32.size then
        word? (product input.dims.dropLast)
      else none := by
  have hfold := foldlM_fits_eq UInt32.size UInt32.toNat word? (fun _ => word?_eq_some_iff.2 rfl)
    (fun h => word?_eq_some_iff.1 h) word?_eq_none_iff input.dims.dropLast
    (show UInt32.toNat 1 < UInt32.size by decide)
  rwa [UInt32.toNat_one, Nat.one_mul, Nat.one_mul] at hfold

lemma featureCount?_eq_none_iff {input : Operand} :
    featureCount? input = none ↔ UInt32.size ≤ product (upToZero input.dims.dropLast) := by
  rw [featureCount?_eq, ite_eq_right_iff, word?_eq_none_iff]
  constructor
  · intro h
    by_contra hlarge
    have hsmall := Nat.not_le.1 hlarge
    have hproduct := Nat.lt_of_le_of_lt product_le_product_upToZero hsmall
    exact absurd hproduct (Nat.not_lt.2 (h hsmall))
  · intro h hsmall
    exact absurd hsmall (Nat.not_lt.2 h)

section FullyConnected

variable {input weights output : Operand} {biases : Option Operand} {transposed : Bool}

/-- Of the causes for which a fully connected layer is refused, no other has a text that begins with
the letter of the feature count. -/
lemma eq_featureCount_of_text {r : Refusal}
    (h : checkFullyConnected input weights biases output transposed = .error r)
    (htext : r.text = (Refusal.mk .fullyConnected .featureCount).text) :
    r = ⟨.fullyConnected, .featureCount⟩ := by
  obtain ⟨routine, cause⟩ := r
  obtain ⟨rfl, hcause⟩ := cause_of_checkFullyConnected_error h
  have hinitial : cause.text.toList.head? = some 'f' := by
    rw [(String.append_right_inj _).1 htext]
    decide
  rcases hcause with rfl | ⟨t, rfl⟩ | ⟨a, b, rfl⟩ | ⟨rank, rfl⟩ | ⟨a, b, rfl⟩ | ⟨n, dims, rfl⟩ |
    ⟨a, b, rfl⟩
  · rfl
  · rw [show (Cause.dataType t).text = "data type " ++ t.name ++ " not supported" from rfl]
      at hinitial
    simp [String.toList_append] at hinitial
  · rw [show (Cause.dataTypes a b).text =
      "data types mismatch (" ++ a.name ++ " vs " ++ b.name ++ ")" from rfl] at hinitial
    simp [String.toList_append] at hinitial
  · rw [show (Cause.weightRank rank).text = "weights must have " ++ rank ++ " dimensions" from rfl]
      at hinitial
    simp [String.toList_append] at hinitial
  · rw [show (Cause.weightInputs a b).text = "weights expect " ++ toString a.toNat ++
      " inputs, input provides " ++ toString b.toNat from rfl] at hinitial
    simp [String.toList_append] at hinitial
  · rw [show (Cause.notVector "biases" n dims).text = "biases" ++ " must be a vector of " ++
      toString n.toNat ++ " elements, got " ++ dimensionsText dims from rfl] at hinitial
    simp [String.toList_append] at hinitial
  · rw [show (Cause.outputShape a b).text = "wrong output shape " ++ dimensionsText a ++
      ", expected " ++ dimensionsText b from rfl] at hinitial
    simp [String.toList_append] at hinitial

/-- The status in which a check speaks of the feature count. -/
lemma status_of_checkFullyConnected_iff :
    (checkFullyConnected input weights biases output transposed).judgement.status
        = .runtimeError "NEFullyConnectedLayer: flattened input feature count overflows" ↔
      input.dataType ∈ floatTypes ∧ input.dataType = weights.dataType ∧
      input.dataType = output.dataType ∧ weights.rank = 2 ∧
      UInt32.size ≤ product (upToZero input.dims.dropLast) := by
  rw [← featureCount?_eq_none_iff, Verdict.status_eq_runtimeError_iff]
  constructor
  · rintro ⟨r, hrefused, htext⟩
    rw [eq_featureCount_of_text hrefused htext] at hrefused
    exact checkFullyConnected_error_featureCount_iff.1 hrefused
  · intro h
    exact ⟨_, checkFullyConnected_error_featureCount_iff.2 h, rfl⟩

end FullyConnected

end Kernel

open Kernel

/-- **Which products are given up.**  An element count is the product of the dimensions, and there
is none exactly when the product of the dimensions in front of an empty one does not fit 64 bits.  A
fully connected layer is refused for its feature count, once types and the rank of the weights are
accepted, exactly when the product of all dimensions but the outermost, up to an empty one, is no
word.  So what is given up is too large wherever no dimension is empty, whatever their order; with
an empty dimension the product is zero, and there is a count only where the part in front of it
fits. -/
theorem counts_given_up_iff (s : Shape) (input weights output : Operand)
    (biases : Option Operand) (transposed : Bool) :
    let status := (checkFullyConnected input weights biases output transposed).judgement.status
    let refused := KernelStatus.runtimeError
      "NEFullyConnectedLayer: flattened input feature count overflows"
    (∀ n, s.elementCount? = some n ↔
      product s.dims = n ∧ product (upToZero s.dims) < UInt64.size) ∧
    (s.elementCount? = none ↔ UInt64.size ≤ product (upToZero s.dims)) ∧
    (0 ∈ s.dims → (s.elementCount? = some 0 ↔ product (upToZero s.dims) < UInt64.size)) ∧
    (0 ∉ s.dims →
      (∀ n, s.elementCount? = some n ↔ product s.dims = n ∧ n < UInt64.size) ∧
      (s.elementCount? = none ↔ UInt64.size ≤ product s.dims) ∧
      ∀ t : Shape, t.dims.Perm s.dims → t.elementCount? = s.elementCount?) ∧
    (status = refused ↔
      input.dataType ∈ floatTypes ∧ input.dataType = weights.dataType ∧
      input.dataType = output.dataType ∧ weights.rank = 2 ∧
      UInt32.size ≤ product (upToZero input.dims.dropLast)) ∧
    (0 ∉ input.dims.dropLast → status = refused → UInt32.size ≤ product input.dims.dropLast) := by
  intro status refused
  refine ⟨fun n => Shape.elementCount?_eq_some_iff, Shape.elementCount?_eq_none_iff,
    fun hzero => ?_, fun hzero => ⟨fun n => ?_, ?_, fun t ht => ?_⟩,
    status_of_checkFullyConnected_iff, fun hzero hrefused => ?_⟩
  · rw [Shape.elementCount?_eq_some_iff]
    exact and_iff_right (product_eq_zero hzero)
  · rw [Shape.elementCount?_eq_some_iff, upToZero_of_not_mem hzero]
    refine and_congr_right fun hn => ?_
    rw [hn]
  · rw [Shape.elementCount?_eq_none_iff, upToZero_of_not_mem hzero]
  · have hzero' : 0 ∉ t.dims := mt ht.mem_iff.1 hzero
    rw [Shape.elementCount?_eq, Shape.elementCount?_eq, upToZero_of_not_mem hzero,
      upToZero_of_not_mem hzero', product_of_perm ht]
  · obtain ⟨-, -, -, -, hlarge⟩ := status_of_checkFullyConnected_iff.1 hrefused
    rwa [upToZero_of_not_mem hzero] at hlarge

/-- Not everything that is given up is too large: three of the largest dimensions in front of an
empty one have no element count, and two dimensions whose product is no word, inside an empty one,
have no feature count.  Both products are zero. -/
theorem not_given_up_only_if_large :
    (¬∀ (s : Shape) (n : Nat), s.elementCount? = some n ↔ product s.dims = n ∧ n < UInt64.size) ∧
    ¬∀ (input weights output : Operand) (biases : Option Operand) (transposed : Bool),
      (checkFullyConnected input weights biases output transposed).judgement.status
          = .runtimeError "NEFullyConnectedLayer: flattened input feature count overflows" →
        UInt32.size ≤ product input.dims.dropLast := by
  constructor
  · intro h
    have hcount := (h ⟨[4294967295, 4294967295, 4294967295, 0]⟩ 0).2 ⟨by decide, by decide⟩
    exact absurd hcount (by decide)
  · intro h
    have hlarge := h ⟨[65536, 65536, 0, 1], .float32, {}⟩ ⟨[3, 0], .float32, {}⟩
      ⟨[3, 1], .float32, {}⟩ none false (by decide)
    exact absurd hlarge (by decide)

end NeuralBackend
