import NeuralBackend.Proofs.Kernel.Broadcast
import NeuralBackend.Proofs.Kernel.ComputedOutput
import NeuralBackend.Proofs.Support.Judgement

/-!
# Leading ones make no difference

A leading one changes the rank of a tensor and nothing that the kernel library reads at an index.
Two descriptions are `Equivalent` when they have one type, one quantisation, and the same dimensions
without leading ones.  **`validate_of_interchanges`**: operands can be replaced by equivalent ones
without a change of the verdict.

**Where it holds.**  The rank itself is looked at in some places: weights have two or four
dimensions, parameters are vectors, the input of a convolution has at most four dimensions, that of
a permutation as many as the vector, and that of a fully connected layer has its rows outermost.
`Layer.ignoresLeadingOnes` lists the other places: all operands of a layer that computes each
element from the elements at or around its index, input and output of a batch normalisation, and the
output of the layers whose output has a computed shape.

**Why it holds.**  In these places a check reads an operand by type, quantisation and `Operand.dim`
alone, and equivalent operands agree in all three (`Operand.Equivalent`).  The relation is
symmetric, so for each check it is enough that what is accepted stays accepted.
-/

namespace NeuralBackend

/-! ## Equivalent operands -/

/-- The two quantisations are the same, bit by bit or as values. -/
def Quantization.Agrees (a b : Quantization) : Prop := a = b ∨ a.sameValue b = true

lemma Single.numEq_comm (a b : Single) : a.numEq b = b.numEq a := by
  rw [numEq, numEq, Bool.and_comm (!a.isNaN)]
  exact congrArg _ (decide_eq_decide.2 eq_comm)

/-- Equal numbers are equal to the same numbers. -/
lemma Single.numEq_congr {a b : Single} (h : a.numEq b = true) (c : Single) :
    a.numEq c = b.numEq c := by
  simp only [numEq, Bool.and_eq_true, Bool.not_eq_true', decide_eq_true_eq] at h
  obtain ⟨⟨ha, hb⟩, hposition⟩ := h
  rw [numEq, numEq, ha, hb, hposition]

lemma Quantization.Agrees.symm {a b : Quantization} (h : a.Agrees b) : b.Agrees a := by
  refine h.imp Eq.symm fun hvalue => ?_
  simp only [sameValue, Bool.and_eq_true, beq_iff_eq] at hvalue ⊢
  exact ⟨(Single.numEq_comm _ _).trans hvalue.1, hvalue.2.symm⟩

lemma Quantization.Agrees.sameValue_eq {a b : Quantization} (h : a.Agrees b) (c : Quantization) :
    a.sameValue c = b.sameValue c := by
  rcases h with rfl | hvalue
  · rfl
  · simp only [sameValue, Bool.and_eq_true, beq_iff_eq] at hvalue
    rw [sameValue, sameValue, Single.numEq_congr hvalue.1, hvalue.2]

/-- The two descriptions have one type, one quantisation, and one shape up to leading ones. -/
structure TensorInfo.Equivalent (x y : TensorInfo) : Prop where
  dataType_eq : x.dataType = y.dataType
  quantization_agrees : x.quantization.Agrees y.quantization
  core_eq : x.shape.core = y.shape.core

lemma TensorInfo.Equivalent.symm {x y : TensorInfo} (h : x.Equivalent y) : y.Equivalent x :=
  ⟨h.dataType_eq.symm, h.quantization_agrees.symm, h.core_eq.symm⟩

namespace Kernel

/-- The two operands agree in type and quantisation, and in every dimension. -/
structure Operand.Equivalent (x y : Operand) : Prop where
  dataType_eq : x.dataType = y.dataType
  quantization_agrees : x.quantization.Agrees y.quantization
  dim_eq : ∀ i, x.dim i = y.dim i

lemma Operand.equivalent_ofInfo {x y : TensorInfo} (h : x.Equivalent y) :
    (ofInfo x).Equivalent (ofInfo y) where
  dataType_eq := h.dataType_eq
  quantization_agrees := h.quantization_agrees
  dim_eq i := by rw [dim_ofInfo, dim_ofInfo, h.core_eq]

/-! ## Checks -/

section Checks

variable {x x' y y' z z' : Operand}

lemma Operand.Equivalent.sameShape (hx : x.Equivalent x') (hy : y.Equivalent y')
    (h : x.sameShape y = true) : x'.sameShape y' = true := by
  rw [sameShape_iff] at h ⊢
  intro i
  rw [← hx.dim_eq, ← hy.dim_eq]
  exact h i

lemma Operand.Equivalent.begins {dims : List UInt32} (hy : y.Equivalent y') (h : y.Begins dims) :
    y'.Begins dims := by
  intro i hi
  rw [← hy.dim_eq]
  exact h i hi

lemma judgeActivation_of_equivalent {p : Activation} (hx : x.Equivalent x') (hy : y.Equivalent y')
    (h : judgeActivation p x y = .ok ()) : judgeActivation p x' y' = .ok () := by
  rw [judgeActivation_ok_iff, checkActivation_ok_iff] at h ⊢
  rw [← hx.dataType_eq, ← hy.dataType_eq]
  obtain ⟨hlogistic, htype, hfunction, hsame, hshape⟩ := h
  exact ⟨hlogistic, htype, hfunction, hsame, hx.sameShape hy hshape⟩

lemma checkArithmetic_of_equivalent {routine : Routine} (hx : x.Equivalent x')
    (hy : y.Equivalent y') (hz : z.Equivalent z') (h : checkArithmetic routine x y z = .ok ()) :
    checkArithmetic routine x' y' z' = .ok () := by
  rw [checkArithmetic_ok_iff_stretches] at h ⊢
  simpa only [hx.dataType_eq, hy.dataType_eq, hz.dataType_eq, hx.dim_eq, hy.dim_eq, hz.dim_eq]
    using h

lemma checkBatchNormalization_of_equivalent {mean variance beta gamma : Operand} {eps : Single}
    (hx : x.Equivalent x') (hy : y.Equivalent y')
    (h : checkBatchNormalization x y mean variance beta gamma eps = .ok ()) :
    checkBatchNormalization x' y' mean variance beta gamma eps = .ok () := by
  have hchannels : x.channels = x'.channels := hx.dim_eq 2
  rw [checkBatchNormalization_ok_iff] at h ⊢
  rw [← hx.dataType_eq, ← hy.dataType_eq, ← hchannels]
  obtain ⟨htype, hsame, hshape, heps, hvectors⟩ := h
  exact ⟨htype, hsame, hx.sameShape hy hshape, heps, hvectors⟩

lemma checkL2Normalization_of_equivalent (hx : x.Equivalent x') (hy : y.Equivalent y')
    (h : checkL2Normalization x y = .ok ()) : checkL2Normalization x' y' = .ok () := by
  rw [checkL2Normalization_ok_iff] at h ⊢
  rw [← hx.dataType_eq, ← hy.dataType_eq]
  obtain ⟨htype, hsame, hshape⟩ := h
  exact ⟨htype, hsame, hx.sameShape hy hshape⟩

lemma checkNormalization_of_equivalent {info : NormalizationInfo} (hx : x.Equivalent x')
    (hy : y.Equivalent y') (h : checkNormalization x y info = .ok ()) :
    checkNormalization x' y' info = .ok () := by
  rw [checkNormalization_ok_iff] at h ⊢
  rw [← hx.dataType_eq, ← hy.dataType_eq]
  obtain ⟨htype, hsame, hshape, hodd⟩ := h
  exact ⟨htype, hsame, hx.sameShape hy hshape, hodd⟩

lemma checkSoftmax_of_equivalent {beta : Single} (hx : x.Equivalent x') (hy : y.Equivalent y')
    (h : checkSoftmax x y beta = .ok ()) : checkSoftmax x' y' beta = .ok () := by
  rw [checkSoftmax_ok_iff] at h ⊢
  rw [← hx.dataType_eq, ← hy.dataType_eq, ← hy.quantization_agrees.sameValue_eq]
  obtain ⟨htype, hsame, hshape, hbeta, hquantized⟩ := h
  exact ⟨htype, hsame, hx.sameShape hy hshape, hbeta, hquantized⟩

/-- Where the output has a computed shape, only the dimensions of that shape are compared. -/
lemma ComputedLayer.check_of_equivalent {c : ComputedLayer} (hy : y.Equivalent y')
    (h : c.check y = .ok ()) : c.check y' = .ok () := by
  rw [check_ok_iff] at h ⊢
  rw [← hy.dataType_eq]
  obtain ⟨hadmits, htype, dims, hdims, hbegins⟩ := h
  exact ⟨hadmits, htype, dims, hdims, hy.begins hbegins⟩

/-- The input of a pooling is read at the four innermost indices. -/
lemma checkPooling_of_equivalent {info : PoolingInfo} (hx : x.Equivalent x') (hy : y.Equivalent y')
    (h : checkPooling x y info = .ok ()) : checkPooling x' y' info = .ok () := by
  have hinput : checkPooling x' y info = .ok () := by
    rw [checkPooling_ok_iff] at h ⊢
    simpa only [Operand.width, Operand.height, Operand.channels, Operand.batch, hx.dataType_eq,
      hx.dim_eq] using h
  exact ComputedLayer.check_of_equivalent (c := .pooling x' info) hy hinput

end Checks

end Kernel

/-! ## Judgements -/

/-- Whether the operand at a place is read without a look at its rank. -/
def Layer.ignoresLeadingOnes (layer : Layer) (place : Nat) : Bool :=
  match layer with
  | .batchNormalization _ => place == 0 || place == 1
  | .convolution2d _ | .depthwiseConvolution2d _ | .fullyConnected _ | .permute _ => place == 1
  | _ => true

/-- What may stand at a place instead of an operand: an equivalent one where the rank is not looked
at, and the operand itself elsewhere. -/
def Layer.Interchangeable (layer : Layer) (place : Nat) (x y : TensorInfo) : Prop :=
  match layer.ignoresLeadingOnes place with
  | true => x.Equivalent y
  | false => x = y

/-- The two lists differ in nothing but leading ones in places where they are ignored. -/
structure Layer.Interchanges (layer : Layer) (xs ys : List TensorInfo) : Prop where
  length_eq : xs.length = ys.length
  at_place : ∀ place x y, xs[place]? = some x → ys[place]? = some y →
    layer.Interchangeable place x y

lemma Layer.Interchangeable.symm {layer : Layer} {place : Nat} {x y : TensorInfo}
    (h : layer.Interchangeable place x y) : layer.Interchangeable place y x := by
  unfold Interchangeable at h ⊢
  cases hplace : layer.ignoresLeadingOnes place with
  | true =>
      rw [hplace] at h
      exact h.symm
  | false =>
      rw [hplace] at h
      exact h.symm

lemma Layer.Interchanges.symm {layer : Layer} {xs ys : List TensorInfo}
    (h : layer.Interchanges xs ys) : layer.Interchanges ys xs where
  length_eq := h.length_eq.symm
  at_place place x y hx hy := (h.at_place place y x hy hx).symm

/-- A place where the rank is looked at has the operand it had. -/
lemma Layer.Interchanges.getElem?_eq {layer : Layer} {xs ys : List TensorInfo}
    (h : layer.Interchanges xs ys) {place : Nat} (hplace : layer.ignoresLeadingOnes place = false) :
    ys[place]? = xs[place]? := by
  by_cases hlt : place < xs.length
  · have hlt' : place < ys.length := h.length_eq ▸ hlt
    have hsame := h.at_place place xs[place] ys[place] (List.getElem?_eq_getElem hlt)
      (List.getElem?_eq_getElem hlt')
    rw [Interchangeable, hplace] at hsame
    rw [List.getElem?_eq_getElem hlt, List.getElem?_eq_getElem hlt', hsame]
  · have hle : xs.length ≤ place := Nat.not_lt.1 hlt
    rw [List.getElem?_eq_none hle, List.getElem?_eq_none (h.length_eq ▸ hle)]

/-- Where the rank of everything but the output is looked at, the output alone is replaced. -/
lemma Layer.Interchanges.eq_set {layer : Layer} {xs ys : List TensorInfo}
    (h : layer.Interchanges xs ys)
    (hplaces : ∀ place, layer.ignoresLeadingOnes place = (place == 1)) {y : TensorInfo}
    (hy : xs[1]? = some y) : ∃ y', y.Equivalent y' ∧ ys = xs.set 1 y' := by
  obtain ⟨hlt, -⟩ := List.getElem?_eq_some_iff.1 hy
  have hlt' : 1 < ys.length := h.length_eq ▸ hlt
  refine ⟨ys[1], ?_, List.ext_getElem? fun place => ?_⟩
  · have hsame := h.at_place 1 y ys[1] hy (List.getElem?_eq_getElem hlt')
    rwa [Interchangeable, hplaces] at hsame
  · by_cases hplace : place = 1
    · rw [hplace, List.getElem?_eq_getElem hlt', List.getElem?_set_self hlt]
    · rw [List.getElem?_set_ne (Ne.symm hplace)]
      exact h.getElem?_eq ((hplaces place).trans (beq_eq_false_iff_ne.2 hplace))

open Kernel

section Judgements

variable {layer : Layer} {kind : LayerKind} {xs ys : List TensorInfo}

/-- What passes for another verdict passes as its judgement. -/
lemma Kernel.Verdict.judgement_ok_of_imp {verdict verdict' : Verdict}
    (h : verdict = .ok () → verdict' = .ok ()) (hok : verdict.judgement = .ok ()) :
    verdict'.judgement = .ok () :=
  judgement_eq_ok_iff.2 (h (judgement_eq_ok_iff.1 hok))

lemma judgeTwo_of_interchanges {check : Operand → Operand → Judgement}
    (hcheck : ∀ {x x' y y'}, layer.Interchangeable 0 x x' → layer.Interchangeable 1 y y' →
      check (.ofInfo x) (.ofInfo y) = .ok () → check (.ofInfo x') (.ofInfo y') = .ok ())
    (hlists : layer.Interchanges xs ys) (h : judgeTwo kind (xs.map .ofInfo) check = .ok ()) :
    judgeTwo kind (ys.map .ofInfo) check = .ok () := by
  obtain ⟨x, y, rfl, hok⟩ := judgeTwo_ok_iff.1 h
  obtain ⟨x', y', rfl⟩ := List.length_eq_two.1 hlists.length_eq.symm
  have hx := hlists.at_place 0 x x' rfl rfl
  have hy := hlists.at_place 1 y y' rfl rfl
  exact judgeTwo_ok_iff.2 ⟨x', y', rfl, hcheck hx hy hok⟩

lemma judgeThree_of_interchanges {check : Operand → Operand → Operand → Judgement}
    (hcheck : ∀ {x x' y y' z z'}, layer.Interchangeable 0 x x' → layer.Interchangeable 1 y y' →
      layer.Interchangeable 2 z z' → check (.ofInfo x) (.ofInfo y) (.ofInfo z) = .ok () →
      check (.ofInfo x') (.ofInfo y') (.ofInfo z') = .ok ())
    (hlists : layer.Interchanges xs ys) (h : judgeThree kind (xs.map .ofInfo) check = .ok ()) :
    judgeThree kind (ys.map .ofInfo) check = .ok () := by
  obtain ⟨x, y, z, rfl, hok⟩ := judgeThree_ok_iff.1 h
  obtain ⟨x', y', z', rfl⟩ := List.length_eq_three.1 hlists.length_eq.symm
  have hx := hlists.at_place 0 x x' rfl rfl
  have hy := hlists.at_place 1 y y' rfl rfl
  have hz := hlists.at_place 2 z z' rfl rfl
  exact judgeThree_ok_iff.2 ⟨x', y', z', rfl, hcheck hx hy hz hok⟩

lemma judgeWeighted_of_interchanges {biasEnabled : Bool}
    {check : Operand → Operand → Option Operand → Operand → Verdict}
    (hplaces : ∀ place, layer.ignoresLeadingOnes place = (place == 1))
    (hcheck : ∀ {input weights bias y y'}, Operand.Equivalent y y' →
      check input weights bias y = .ok () → check input weights bias y' = .ok ())
    (hlists : layer.Interchanges xs ys)
    (h : judgeWeighted kind (xs.map .ofInfo) biasEnabled
      (fun input weights bias output => (check input weights bias output).judgement) = .ok ()) :
    judgeWeighted kind (ys.map .ofInfo) biasEnabled
      (fun input weights bias output => (check input weights bias output).judgement) = .ok () := by
  obtain ⟨input, output, weights, biases, rfl, hgiven, hok⟩ := judgeWeighted_ok_iff.1 h
  obtain ⟨output', houtput, rfl⟩ := hlists.eq_set hplaces (y := output) rfl
  refine judgeWeighted_ok_iff.2 ⟨input, output', weights, biases, rfl, hgiven, ?_⟩
  exact Verdict.judgement_ok_of_imp (hcheck (Operand.equivalent_ofInfo houtput)) hok

lemma judge_batchNormalization_of_interchanges {p : BatchNormalization}
    (hlists : (Layer.batchNormalization p).Interchanges xs ys)
    (h : judge (.batchNormalization p) xs = .ok ()) :
    judge (.batchNormalization p) ys = .ok () := by
  obtain ⟨x, y, mean, variance, beta, gamma, rfl, hok⟩ := judge_batchNormalization_ok_iff.1 h
  rcases ys with _ | ⟨x', _ | ⟨y', vectors⟩⟩
  · cases hlists.length_eq
  · cases hlists.length_eq
  · have hignores : ∀ i, (Layer.batchNormalization p).ignoresLeadingOnes (i + 2) = false := by
      simp [Layer.ignoresLeadingOnes]
    have hvectors : vectors = [mean, variance, beta, gamma] :=
      List.ext_getElem? fun i => hlists.getElem?_eq (hignores i)
    have hx : x.Equivalent x' := hlists.at_place 0 x x' rfl rfl
    have hy : y.Equivalent y' := hlists.at_place 1 y y' rfl rfl
    refine judge_batchNormalization_ok_iff.2
      ⟨x', y', mean, variance, beta, gamma, by rw [hvectors], ?_⟩
    exact checkBatchNormalization_of_equivalent (Operand.equivalent_ofInfo hx)
      (Operand.equivalent_ofInfo hy) hok

/-- What is accepted stays accepted. -/
lemma judge_of_interchanges (hlists : layer.Interchanges xs ys) (h : judge layer xs = .ok ()) :
    judge layer ys = .ok () := by
  cases layer with
  | activation p =>
      refine judgeTwo_of_interchanges (fun hx hy => ?_) hlists h
      exact judgeActivation_of_equivalent (Operand.equivalent_ofInfo hx)
        (Operand.equivalent_ofInfo hy)
  | l2Normalization =>
      refine judgeTwo_of_interchanges (fun hx hy => Verdict.judgement_ok_of_imp ?_) hlists h
      exact checkL2Normalization_of_equivalent (Operand.equivalent_ofInfo hx)
        (Operand.equivalent_ofInfo hy)
  | normalization p =>
      refine judgeTwo_of_interchanges (fun hx hy => Verdict.judgement_ok_of_imp ?_) hlists h
      exact checkNormalization_of_equivalent (Operand.equivalent_ofInfo hx)
        (Operand.equivalent_ofInfo hy)
  | softmax p =>
      refine judgeTwo_of_interchanges (fun hx hy => Verdict.judgement_ok_of_imp ?_) hlists h
      exact checkSoftmax_of_equivalent (Operand.equivalent_ofInfo hx) (Operand.equivalent_ofInfo hy)
  | pooling2d p =>
      refine judgeTwo_of_interchanges (fun hx hy => Verdict.judgement_ok_of_imp ?_) hlists h
      exact checkPooling_of_equivalent (Operand.equivalent_ofInfo hx) (Operand.equivalent_ofInfo hy)
  | permute p =>
      refine judgeTwo_of_interchanges (fun {x x' _ _} hx hy => Verdict.judgement_ok_of_imp ?_)
        hlists h
      obtain rfl : x = x' := hx
      exact ComputedLayer.check_of_equivalent (c := .permute (.ofInfo x) (.ofLayer p))
        (Operand.equivalent_ofInfo hy)
  | addition | multiplication =>
      refine judgeThree_of_interchanges (fun hx hy hz => Verdict.judgement_ok_of_imp ?_) hlists h
      exact checkArithmetic_of_equivalent (Operand.equivalent_ofInfo hx)
        (Operand.equivalent_ofInfo hy) (Operand.equivalent_ofInfo hz)
  | batchNormalization p => exact judge_batchNormalization_of_interchanges hlists h
  | convolution2d p =>
      rw [judge] at h ⊢
      refine judgeWeighted_of_interchanges (fun _ => rfl) (fun {x w b _ _} hy => ?_) hlists h
      exact ComputedLayer.check_of_equivalent (c := .convolution x w b p.window) hy
  | depthwiseConvolution2d p =>
      rw [judge] at h ⊢
      refine judgeWeighted_of_interchanges (fun _ => rfl) (fun {x w b _ _} hy => ?_) hlists h
      exact ComputedLayer.check_of_equivalent (c := .depthwiseConvolution x w b p.window) hy
  | fullyConnected p =>
      rw [judge] at h ⊢
      refine judgeWeighted_of_interchanges (fun _ => rfl) (fun {x w b _ _} hy => ?_) hlists h
      exact ComputedLayer.check_of_equivalent (c := .fullyConnected x w b p.transposeWeights) hy
  | _ => cases h

end Judgements

/-- **Leading ones make no difference.**  Let two lists of operands differ only in places where a
layer ignores leading ones, and there by equivalent operands: one type, one quantisation, and the
same dimensions without leading ones.  Then the validator accepts both or neither.  These places are
all of an activation, an addition, a multiplication, a pooling, a softmax and a normalisation by the
Euclidean norm or by local response, the input and the output of a batch normalisation, and the
output of the two convolutions, a fully connected layer and a permutation. -/
theorem validate_of_interchanges {layer : Layer} {xs ys : List TensorInfo}
    (h : layer.Interchanges xs ys) :
    (Validator.compute.validate layer xs).isOk = (Validator.compute.validate layer ys).isOk := by
  rw [Bool.eq_iff_iff]
  simp only [Validator.compute, Judgement.status_isOk_iff]
  exact ⟨judge_of_interchanges h, judge_of_interchanges h.symm⟩

/-- Two rows of five as the output of a fully connected layer, with and without two leading ones.
On the input a leading one makes one row out of the two, and the weights do not fit any more. -/
theorem validate_of_interchanges_of_rows :
    let layer : Layer := .fullyConnected {}
    let input : TensorInfo := ⟨⟨[2, 3]⟩, .float32, {}⟩
    let weights : TensorInfo := ⟨⟨[3, 5]⟩, .float32, {}⟩
    let output : TensorInfo := ⟨⟨[2, 5]⟩, .float32, {}⟩
    let output' : TensorInfo := ⟨⟨[1, 1, 2, 5]⟩, .float32, {}⟩
    layer.Interchanges [input, output, weights] [input, output', weights] ∧
      (Validator.compute.validate layer [input, output', weights]).isOk = true ∧
      (Validator.compute.validate layer
        [⟨⟨[1, 2, 3]⟩, .float32, {}⟩, output', weights]).isOk = false := by
  intro layer input weights output output'
  have hlists : layer.Interchanges [input, output, weights] [input, output', weights] := by
    refine ⟨rfl, fun place x y hx hy => ?_⟩
    match place with
    | 0 | 2 => exact Option.some.inj (hx.symm.trans hy)
    | 1 =>
        cases hx
        cases hy
        exact ⟨rfl, .inl rfl, by decide⟩
    | n + 3 => cases hx
  have hok : (Validator.compute.validate layer [input, output, weights]).isOk = true := by decide
  exact ⟨hlists, (validate_of_interchanges hlists).symm.trans hok, by decide⟩

end NeuralBackend
