import NeuralBackend.Proofs.Kernel.Check.Elementwise
import NeuralBackend.Proofs.Support.Precheck

/-!
# Layers that keep the number of elements

Activations, softmax and the three normalisations compare their output with their input as a whole.
**`sameShape_keeps_elements`** says what that comparison is worth.

**The comparison is the intended relation.**  Two operands are compared up to the larger of their
ranks, so a chain of comparisons goes through ranges of different lengths.  Once the comparison is
one at every index no range is left, and it is an equivalence because equality of dimensions is
(`Operand.sameShape_equivalence`).  Read outermost first, it is equality up to leading ones.

**Leading ones do not count.**  Element counts are multiplied from the outside in, and are given up
at the first partial product that does not fit.  A leading one leaves the count where it started, so
the count comes from the core of the shape alone (`Shape.elementCount?_eq_core`), also where there
is none.
-/

namespace NeuralBackend

/-- Leading ones leave the element count as it is, and give it up nowhere. -/
lemma Shape.elementCount?_eq_core (s : Shape) : s.elementCount? = s.core.foldlM countStep 1 := by
  obtain ⟨dims⟩ := s
  rw [elementCount?, core]
  induction dims with
  | nil => rfl
  | cons d dims ih =>
      by_cases hd : d = 1
      · subst hd
        have hone : countStep 1 1 = some 1 := by decide
        rw [List.dropWhile_cons_of_pos (by rfl), List.foldlM_cons, hone]
        exact ih
      · rw [List.dropWhile_cons_of_neg (by simpa using hd)]

/-- Having one shape is reflexive, symmetric and transitive, whatever the ranks. -/
lemma Kernel.Operand.sameShape_equivalence :
    Equivalence fun x y : Operand => x.sameShape y = true := by
  simp only [sameShape_iff]
  exact
    { refl := fun _ _ => rfl
      symm := fun h i => (h i).symm
      trans := fun h h' i => (h i).trans (h' i) }

/-- Descriptions of one shape have one element count, or neither has any. -/
lemma TensorInfo.elementCount?_eq_of_sameShape {x y : TensorInfo}
    (h : (Kernel.Operand.ofInfo x).sameShape (.ofInfo y) = true) :
    x.elementCount? = y.elementCount? := by
  rw [elementCount?, elementCount?, Shape.elementCount?_eq_core, Shape.elementCount?_eq_core,
    Kernel.Operand.sameShape_ofInfo_iff.1 h]

/-! ## Accepted layers -/

/-- The kinds of layers whose output is compared with the input as a whole. -/
def LayerKind.keepsShape : List LayerKind :=
  [.activation, .batchNormalization, .l2Normalization, .normalization, .softmax]

open Kernel

variable {layer : Layer} {kind : LayerKind} {operands : List TensorInfo}

lemma judgeTwo_sameShape {check : Operand → Operand → Judgement}
    (hcheck : ∀ x y, check x y = .ok () → x.sameShape y = true)
    (h : judgeTwo kind (operands.map .ofInfo) check = .ok ()) :
    ∃ input output rest, operands = input :: output :: rest ∧
      (Operand.ofInfo input).sameShape (.ofInfo output) = true := by
  obtain ⟨input, output, rfl, hok⟩ := judgeTwo_ok_iff.1 h
  exact ⟨input, output, [], rfl, hcheck _ _ hok⟩

/-- The output of an accepted layer of these kinds has the shape of the input. -/
lemma judge_sameShape (hkind : layer.kind ∈ LayerKind.keepsShape)
    (h : judge layer operands = .ok ()) :
    ∃ input output rest, operands = input :: output :: rest ∧
      (Operand.ofInfo input).sameShape (.ofInfo output) = true := by
  cases layer with
  | activation p =>
      refine judgeTwo_sameShape (fun x y hok => ?_) h
      exact (checkActivation_ok_iff.1 (judgeActivation_ok_iff.1 hok).2).2.2.2
  | l2Normalization =>
      refine judgeTwo_sameShape (fun x y hok => ?_) h
      exact (checkL2Normalization_ok_iff.1 (Verdict.judgement_eq_ok_iff.1 hok)).2.2
  | normalization p =>
      refine judgeTwo_sameShape (fun x y hok => ?_) h
      exact (checkNormalization_ok_iff.1 (Verdict.judgement_eq_ok_iff.1 hok)).2.2.1
  | softmax p =>
      refine judgeTwo_sameShape (fun x y hok => ?_) h
      exact (checkSoftmax_ok_iff.1 (Verdict.judgement_eq_ok_iff.1 hok)).2.2.1
  | batchNormalization p =>
      obtain ⟨input, output, mean, variance, beta, gamma, rfl, hok⟩ :=
        judge_batchNormalization_ok_iff.1 h
      obtain ⟨-, -, hshape, -⟩ := checkBatchNormalization_ok_iff.1 hok
      exact ⟨input, output, [mean, variance, beta, gamma], rfl, hshape⟩
  | _ => simp [Layer.kind, LayerKind.keepsShape] at hkind

/-- The library validates all of these kinds. -/
lemma usesKernelValidation_of_mem_keepsShape {kind : LayerKind}
    (h : kind ∈ LayerKind.keepsShape) : (Strategy.of kind).usesKernelValidation = true := by
  simp only [LayerKind.keepsShape, List.mem_cons, List.not_mem_nil, or_false] at h
  rcases h with rfl | rfl | rfl | rfl | rfl <;> rfl

/-- **One shape, one number of elements.**  Having one shape is an equivalence between operands of
any ranks; between tensor descriptions it is equality of the dimensions without leading ones, and
such descriptions have one element count, or none of them has any.  So where the validator accepts
an activation, a softmax or a normalisation of any of the three forms, or the backend of this build
supports it, there are an input and an output, and these have one element count. -/
theorem sameShape_keeps_elements :
    (Equivalence fun x y : Operand => x.sameShape y = true) ∧
    (∀ x y : TensorInfo,
      ((Operand.ofInfo x).sameShape (.ofInfo y) = true ↔
        x.shape.dims.dropWhile (· == 1) = y.shape.dims.dropWhile (· == 1)) ∧
      ((Operand.ofInfo x).sameShape (.ofInfo y) = true → x.elementCount? = y.elementCount?)) ∧
    ∀ (layer : Layer) (operands : List TensorInfo), layer.kind ∈ LayerKind.keepsShape →
      (Validator.compute.validate layer operands).isOk = true ∨
        Backend.standard.supports layer operands = .ok () →
      ∃ input output, operands[0]? = some input ∧ operands[1]? = some output ∧
        input.elementCount? = output.elementCount? := by
  refine ⟨Operand.sameShape_equivalence, fun x y => ⟨Operand.sameShape_ofInfo_iff, ?_⟩,
    fun layer operands hkind haccepted => ?_⟩
  · exact TensorInfo.elementCount?_eq_of_sameShape
  · have hjudge : judge layer operands = .ok () := by
      rcases haccepted with hok | hsupported
      · exact Judgement.status_isOk_iff.1 hok
      · exact Backend.judge_of_support (b := Backend.standard) rfl rfl
          (usesKernelValidation_of_mem_keepsShape hkind) hsupported
    obtain ⟨input, output, rest, rfl, hshape⟩ := judge_sameShape hkind hjudge
    exact ⟨input, output, rfl, rfl, TensorInfo.elementCount?_eq_of_sameShape hshape⟩

/-- A softmax of more elements than can be counted: two leading ones more in the output, and no
count on either side. -/
theorem sameShape_keeps_elements_of_uncountable :
    let input : TensorInfo := ⟨⟨[4294967295, 4294967295, 4294967295]⟩, .float32, {}⟩
    let output : TensorInfo := ⟨⟨[1, 1, 4294967295, 4294967295, 4294967295]⟩, .float32, {}⟩
    (Validator.compute.validate (.softmax {}) [input, output]).isOk = true ∧
      input.elementCount? = none ∧ output.elementCount? = none := by
  intro input output
  obtain ⟨-, -, haccepted⟩ := sameShape_keeps_elements
  have hok : (Validator.compute.validate (.softmax {}) [input, output]).isOk = true := by decide
  obtain ⟨x, y, ⟨⟩, ⟨⟩, hcount⟩ := haccepted (.softmax {}) [input, output] (by decide) (.inl hok)
  have hnone : input.elementCount? = none := by decide
  exact ⟨hok, hnone, hcount.symm.trans hnone⟩

end NeuralBackend
