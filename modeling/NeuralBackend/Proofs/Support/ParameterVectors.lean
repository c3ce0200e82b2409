import NeuralBackend.Proofs.Kernel.Check.Elementwise
import NeuralBackend.Proofs.Kernel.Check.Rearranged
import NeuralBackend.Proofs.Kernel.Check.Windowed
import NeuralBackend.Proofs.Support.Judgement

/-!
# Parameter vectors

A batch normalisation is given four vectors, and a layer with weights one where its bias is enabled.
`Layer.vectors` picks them out of the operands, and `Layer.outputChannels` is the number of channels
that a layer writes.  **`parameter_vectors_fit`**: every vector of an accepted layer has one element
for each channel of the output.

**Where the channels come from.**  No check compares a vector with the output.  A normalisation
compares it with the channels of the input, a convolution with the number of kernels, a depthwise
one with the product of channels and multiplier, and a fully connected layer with the side of the
weights that is not summed over.  It is the check of the output's shape that makes each of these the
channels of the output.  `judgeWeighted_vectors` is what the three layers with weights share.

**Order.**  The four vectors of a normalisation are checked alike, so accepting them does not depend
on their order (`judge_vectors_iff`).  What is said about vectors that are refused does: it names
the first that does not fit.
-/

namespace NeuralBackend

open Kernel

/-- The bias among the operands of a layer with weights, where it is enabled. -/
def biasVectors (biasEnabled : Bool) (operands : List TensorInfo) : List TensorInfo :=
  if biasEnabled then operands.drop 3 else []

/-- The parameter vectors that a layer applies to the channels of its output. -/
def Layer.vectors (layer : Layer) (operands : List TensorInfo) : List TensorInfo :=
  match layer with
  | .batchNormalization _ => operands.drop 2
  | .convolution2d p | .depthwiseConvolution2d p => biasVectors p.biasEnabled operands
  | .fullyConnected p => biasVectors p.biasEnabled operands
  | _ => []

/-- The number of parameter vectors of a layer. -/
def Layer.vectorCount : Layer → Nat
  | .batchNormalization _ => 4
  | .convolution2d p | .depthwiseConvolution2d p => p.biasEnabled.toNat
  | .fullyConnected p => p.biasEnabled.toNat
  | _ => 0

/-- The number of channels of an output: its innermost dimension for a fully connected layer, and
the third innermost one otherwise. -/
def Layer.outputChannels (layer : Layer) (output : Operand) : UInt32 :=
  match layer with
  | .fullyConnected _ => output.dim 0
  | _ => output.channels

/-- A vector has as many elements as its one dimension says. -/
lemma vector_of_ofInfo {v : TensorInfo} {length : UInt32}
    (h : (Operand.ofInfo v).rank = 1 ∧ (Operand.ofInfo v).dim 0 = length) :
    v.rank = 1 ∧ v.elementCount? = some length.toNat := by
  have hdims := Operand.vector_ofInfo_iff.1 h
  have hfits : 1 * length.toNat < Shape.countLimit := by
    rw [Nat.one_mul]
    exact length.toNat_lt.trans (by decide)
  constructor
  · rw [TensorInfo.rank, Shape.rank, hdims, List.length_singleton]
  · rw [TensorInfo.elementCount?, Shape.elementCount?, hdims, List.foldlM_cons, Shape.countStep,
      if_pos hfits, Nat.one_mul]
    rfl

/-! ## Layers with weights -/

/-- An accepted layer with weights has the bias it enables, and the bias fits the output when the
check of the layer makes it. -/
lemma judgeWeighted_vectors {kind : LayerKind} {operands : List TensorInfo} {biasEnabled : Bool}
    {check : Operand → Operand → Option Operand → Operand → Verdict} {channels : Operand → UInt32}
    (hcheck : ∀ {input weights bias output}, check input weights bias output = .ok () →
      ∀ b ∈ bias, b.rank = 1 ∧ b.dim 0 = channels output)
    (h : judgeWeighted kind (operands.map .ofInfo) biasEnabled
      (fun input weights bias output => (check input weights bias output).judgement) = .ok ()) :
    ∃ output, operands[1]? = some output ∧
      (biasVectors biasEnabled operands).length = biasEnabled.toNat ∧
      ∀ v ∈ biasVectors biasEnabled operands,
        v.rank = 1 ∧ v.elementCount? = some (channels (.ofInfo output)).toNat := by
  obtain ⟨input, output, weights, biases, rfl, hgiven, hok⟩ := judgeWeighted_ok_iff.1 h
  refine ⟨output, rfl, ?_⟩
  cases biasEnabled with
  | false => exact ⟨rfl, fun v hv => by cases hv⟩
  | true =>
      -- a bias that is enabled is the fourth operand, and it is the one that the check is shown
      obtain ⟨b, rfl⟩ := Option.isSome_iff_exists.1 (hgiven rfl)
      refine ⟨rfl, fun v hv => ?_⟩
      obtain rfl : v = b := List.mem_singleton.1 hv
      exact vector_of_ofInfo
        (hcheck (Verdict.judgement_eq_ok_iff.1 hok) _ (ofInfo_mem_enabledBias rfl rfl))

section Bias

variable {input weights output : Operand} {bias : Option Operand}

lemma bias_of_checkConvolution {window : PadStride}
    (h : checkConvolution input weights bias output window = .ok ()) :
    ∀ b ∈ bias, b.rank = 1 ∧ b.dim 0 = output.channels := by
  obtain ⟨-, -, -, -, -, -, hbias, _, _, -, hplanes⟩ := checkConvolution_ok_iff.1 h
  have hchannels : output.channels = weights.dim 3 := hplanes 2 (by simp)
  intro b hb
  rw [hchannels]
  exact (hbias b hb).2

lemma bias_of_checkDepthwiseConvolution {window : PadStride}
    (h : checkDepthwiseConvolution input weights bias output window = .ok ()) :
    ∀ b ∈ bias, b.rank = 1 ∧ b.dim 0 = output.channels := by
  obtain ⟨-, -, -, -, -, -, channels, -, hbias, _, _, -, hplanes⟩ :=
    checkDepthwiseConvolution_ok_iff.1 h
  have hchannels : output.channels = channels := hplanes 2 (by simp)
  intro b hb
  rw [hchannels]
  exact (hbias b hb).2

lemma bias_of_checkFullyConnected {transposed : Bool}
    (h : checkFullyConnected input weights bias output transposed = .ok ()) :
    ∀ b ∈ bias, b.rank = 1 ∧ b.dim 0 = output.dim 0 := by
  obtain ⟨-, -, -, -, -, hbias, hrow⟩ := checkFullyConnected_ok_iff.1 h
  have hchannels : output.dim 0 = weightOutputs weights transposed := hrow 0 (by simp)
  intro b hb
  rw [hchannels]
  exact (hbias b hb).2

end Bias

/-! ## Batch normalisations -/

/-- A batch normalisation puts one condition on each of its four vectors. -/
lemma judge_vectors_iff {p : BatchNormalization} {input output : TensorInfo}
    {vectors : List TensorInfo} :
    judge (.batchNormalization p) (input :: output :: vectors) = .ok () ↔
      vectors.length = 4 ∧ input.dataType ∈ floatTypes ∧ input.dataType = output.dataType ∧
      (Operand.ofInfo input).sameShape (.ofInfo output) = true ∧ Single.zero.le p.eps = true ∧
      ∀ v ∈ vectors, input.dataType = v.dataType ∧ (Operand.ofInfo v).rank = 1 ∧
        (Operand.ofInfo v).dim 0 = (Operand.ofInfo input).channels := by
  rw [judge_batchNormalization_ok_iff]
  constructor
  · rintro ⟨_, _, mean, variance, beta, gamma, ⟨⟩, hok⟩
    obtain ⟨htype, houtput, hshape, heps, hvectors⟩ := checkBatchNormalization_ok_iff.1 hok
    refine ⟨rfl, htype, houtput, hshape, heps, fun v hv => ?_⟩
    exact hvectors _ (List.mem_map_of_mem (f := Operand.ofInfo) hv)
  · rintro ⟨hlength, htype, houtput, hshape, heps, hvectors⟩
    obtain ⟨mean, variance, beta, gamma, rfl⟩ := List.length_eq_four.1 hlength
    refine ⟨_, _, mean, variance, beta, gamma, rfl, ?_⟩
    refine checkBatchNormalization_ok_iff.2 ⟨htype, houtput, hshape, heps, fun x hx => ?_⟩
    obtain ⟨v, hv, rfl⟩ :=
      (List.mem_map (f := Operand.ofInfo) (l := [mean, variance, beta, gamma])).1 hx
    exact hvectors v hv

/-- The vectors of an accepted normalisation fit the output, which has the channels of the input. -/
lemma vectors_of_judge_batchNormalization {p : BatchNormalization} {operands : List TensorInfo}
    (h : judge (.batchNormalization p) operands = .ok ()) :
    ∃ output, operands[1]? = some output ∧ (operands.drop 2).length = 4 ∧
      ∀ v ∈ operands.drop 2,
        v.rank = 1 ∧ v.elementCount? = some (Operand.ofInfo output).channels.toNat := by
  obtain ⟨input, output, mean, variance, beta, gamma, rfl, -⟩ :=
    judge_batchNormalization_ok_iff.1 h
  obtain ⟨hlength, -, -, hshape, -, hvectors⟩ := judge_vectors_iff.1 h
  refine ⟨output, rfl, hlength, fun v hv => vector_of_ofInfo ?_⟩
  have hchannels : (Operand.ofInfo input).channels = (Operand.ofInfo output).channels :=
    Operand.sameShape_iff.1 hshape 2
  rw [← hchannels]
  exact (hvectors v hv).2

/-- **Parameter vectors fit the output.**  Where the validator accepts a batch normalisation, a
convolution of either kind or a fully connected layer, there is an output, the parameter vectors are
all there, and each is a vector with one element for each channel of the output.  Whether a batch
normalisation is accepted does not depend on the order of its vectors. -/
theorem parameter_vectors_fit :
    (∀ (layer : Layer) (operands : List TensorInfo),
      layer.kind ∈ [.batchNormalization, .convolution2d, .depthwiseConvolution2d, .fullyConnected] →
      (Validator.compute.validate layer operands).isOk = true →
      ∃ output, operands[1]? = some output ∧
        (layer.vectors operands).length = layer.vectorCount ∧
        ∀ v ∈ layer.vectors operands,
          v.rank = 1 ∧ v.elementCount? = some (layer.outputChannels (.ofInfo output)).toNat) ∧
    ∀ (p : BatchNormalization) (input output : TensorInfo) (vectors vectors' : List TensorInfo),
      vectors.Perm vectors' →
        (Validator.compute.validate (.batchNormalization p) (input :: output :: vectors)).isOk =
          (Validator.compute.validate (.batchNormalization p)
            (input :: output :: vectors')).isOk := by
  constructor
  · intro layer operands hkind hok
    have hjudge := Judgement.status_isOk_iff.1 hok
    cases layer with
    | batchNormalization p => exact vectors_of_judge_batchNormalization hjudge
    | convolution2d p => exact judgeWeighted_vectors bias_of_checkConvolution hjudge
    | depthwiseConvolution2d p =>
        exact judgeWeighted_vectors bias_of_checkDepthwiseConvolution hjudge
    | fullyConnected p => exact judgeWeighted_vectors bias_of_checkFullyConnected hjudge
    | _ => simp [Layer.kind] at hkind
  · intro p input output vectors vectors' hperm
    rw [Bool.eq_iff_iff]
    simp only [Validator.compute, Judgement.status_isOk_iff, judge_vectors_iff, hperm.length_eq,
      hperm.mem_iff]

/-- Two channels that are each read twice come out as four, and so the bias has four elements.  A
normalisation of the four channels is refused wherever the one vector stands that is too short. -/
theorem parameter_vectors_fit_of_multiplier :
    let input : TensorInfo := ⟨⟨[1, 2, 4, 4]⟩, .float32, {}⟩
    let output : TensorInfo := ⟨⟨[1, 4, 2, 2]⟩, .float32, {}⟩
    let weights : TensorInfo := ⟨⟨[2, 2, 3, 3]⟩, .float32, {}⟩
    let vector : TensorInfo := ⟨⟨[4]⟩, .float32, {}⟩
    let short : TensorInfo := ⟨⟨[2]⟩, .float32, {}⟩
    let layer : Layer := .depthwiseConvolution2d { strideX := 1, strideY := 1, biasEnabled := true }
    let normalises (vectors : List TensorInfo) : Bool :=
      (Validator.compute.validate (.batchNormalization {}) (output :: output :: vectors)).isOk
    (Validator.compute.validate layer [input, output, weights, vector]).isOk = true ∧
      vector.elementCount? = some 4 ∧ normalises [vector, vector, vector, vector] = true ∧
      normalises [short, vector, vector, vector] = false ∧
      normalises [vector, vector, vector, short] = false := by
  intro input output weights vector short layer normalises
  have hok : (Validator.compute.validate layer [input, output, weights, vector]).isOk = true := by
    decide
  obtain ⟨hfit, horder⟩ := parameter_vectors_fit
  obtain ⟨y, hy, -, hvectors⟩ := hfit layer [input, output, weights, vector] (by decide) hok
  obtain rfl : output = y := Option.some.inj hy
  have hfront : normalises [short, vector, vector, vector] = false := by decide
  have hback := horder {} output output [vector, vector, vector, short]
    [short, vector, vector, vector] (by decide)
  exact ⟨hok, (hvectors vector (by decide)).2, by decide, hfront, hback.trans hfront⟩

end NeuralBackend
