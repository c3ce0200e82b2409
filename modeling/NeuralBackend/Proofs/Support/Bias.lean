import NeuralBackend.Proofs.Kernel.Check.Windowed
import NeuralBackend.Proofs.Support.Dependence

/-!
# Biases

The two convolutions and the fully connected layer take a bias as a fourth operand, which counts
only where the layer enables it.  **`bias_only_restricts`** is what that amounts to: a bias that is
not enabled might as well not be there, one that is enabled has to be there, and it can only keep a
layer from running that would run without it.

**Three layers, one argument.**  They check the bias at different points, in front of the shape of
the output, but all of them by way of one optional operand.  `exists_check_of_mem_weighted` states
what they have in common: a layer with its bias enabled or disabled is judged by one check, and that
check accepts no bias wherever it accepts some bias.
-/

namespace NeuralBackend

open Kernel

/-- The kinds of layers that take weights, and perhaps a bias. -/
def LayerKind.weighted : List LayerKind :=
  [.convolution2d, .depthwiseConvolution2d, .fullyConnected]

/-- Whether the layer enables a bias. -/
def Layer.biasEnabled : Layer → Bool
  | .convolution2d p | .depthwiseConvolution2d p => p.biasEnabled
  | .fullyConnected p => p.biasEnabled
  | _ => false

/-- The layer with its bias enabled or disabled, and everything else as it was. -/
def Layer.withBias (layer : Layer) (biasEnabled : Bool) : Layer :=
  match layer with
  | .convolution2d p => .convolution2d { p with biasEnabled }
  | .depthwiseConvolution2d p => .depthwiseConvolution2d { p with biasEnabled }
  | .fullyConnected p => .fullyConnected { p with biasEnabled }
  | layer => layer

@[simp] lemma Layer.kind_withBias (layer : Layer) (biasEnabled : Bool) :
    (layer.withBias biasEnabled).kind = layer.kind := by
  cases layer <;> rfl

lemma Layer.withBias_biasEnabled (layer : Layer) : layer.withBias layer.biasEnabled = layer := by
  cases layer <;> rfl

/-! ## Checks without the bias -/

namespace Kernel

variable {input weights bias output : Operand}

lemma checkConvolution_none {window : PadStride}
    (h : checkConvolution input weights (some bias) output window = .ok ()) :
    checkConvolution input weights none output window = .ok () := by
  obtain ⟨htype, hweights, houtput, hrank, hweightRank, hchannels, -, hplanes⟩ :=
    checkConvolution_ok_iff.1 h
  exact checkConvolution_ok_iff.2
    ⟨htype, hweights, houtput, hrank, hweightRank, hchannels, by simp [BiasFits], hplanes⟩

lemma checkDepthwiseConvolution_none {window : PadStride}
    (h : checkDepthwiseConvolution input weights (some bias) output window = .ok ()) :
    checkDepthwiseConvolution input weights none output window = .ok () := by
  obtain ⟨htype, hweights, houtput, hrank, hweightRank, hsame, channels, hchannels, -, hplanes⟩ :=
    checkDepthwiseConvolution_ok_iff.1 h
  exact checkDepthwiseConvolution_ok_iff.2 ⟨htype, hweights, houtput, hrank, hweightRank, hsame,
    channels, hchannels, by simp [BiasFits], hplanes⟩

lemma checkFullyConnected_none {transposed : Bool}
    (h : checkFullyConnected input weights (some bias) output transposed = .ok ()) :
    checkFullyConnected input weights none output transposed = .ok () := by
  obtain ⟨htype, hweights, houtput, hrank, hfeatures, -, hrow⟩ := checkFullyConnected_ok_iff.1 h
  exact checkFullyConnected_ok_iff.2
    ⟨htype, hweights, houtput, hrank, hfeatures, by simp, hrow⟩

end Kernel

/-! ## Judgements -/

section Judgements

variable {layer : Layer} {input output weights bias : TensorInfo}

/-- One check judges a layer with weights whether its bias is enabled or not, and it accepts no bias
wherever it accepts a bias. -/
lemma exists_check_of_mem_weighted (hlayer : layer.kind ∈ LayerKind.weighted) :
    ∃ check : Operand → Operand → Option Operand → Operand → Verdict,
      (∀ biasEnabled operands, judge (layer.withBias biasEnabled) operands =
        judgeWeighted layer.kind (operands.map .ofInfo) biasEnabled fun input weights bias output =>
          (check input weights bias output).judgement) ∧
      ∀ input weights bias output, check input weights (some bias) output = .ok () →
        check input weights none output = .ok () := by
  cases layer with
  | convolution2d p =>
      exact ⟨(checkConvolution · · · · p.window), fun _ _ => rfl,
        fun _ _ _ _ => checkConvolution_none⟩
  | depthwiseConvolution2d p =>
      exact ⟨(checkDepthwiseConvolution · · · · p.window), fun _ _ => rfl,
        fun _ _ _ _ => checkDepthwiseConvolution_none⟩
  | fullyConnected p =>
      exact ⟨(checkFullyConnected · · · · p.transposeWeights), fun _ _ => rfl,
        fun _ _ _ _ => checkFullyConnected_none⟩
  | _ => simp [Layer.kind, LayerKind.weighted] at hlayer

lemma judge_bias_of_disabled (hlayer : layer.kind ∈ LayerKind.weighted)
    (hoff : layer.biasEnabled = false) :
    judge layer [input, output, weights, bias] = judge layer [input, output, weights] := by
  obtain ⟨check, hjudge, -⟩ := exists_check_of_mem_weighted hlayer
  rw [← layer.withBias_biasEnabled, hoff, hjudge, hjudge]
  rfl

lemma judge_of_missing_bias (hlayer : layer.kind ∈ LayerKind.weighted)
    (hon : layer.biasEnabled = true) :
    judge layer [input, output, weights] = .error (.missingBias layer.kind) := by
  obtain ⟨check, hjudge, -⟩ := exists_check_of_mem_weighted hlayer
  rw [← layer.withBias_biasEnabled, hon, hjudge, Layer.kind_withBias]
  rfl

/-- A layer that is accepted with its bias is accepted without. -/
lemma judge_withBias_false (hlayer : layer.kind ∈ LayerKind.weighted)
    (hon : layer.biasEnabled = true) (h : judge layer [input, output, weights, bias] = .ok ()) :
    judge (layer.withBias false) [input, output, weights] = .ok () := by
  obtain ⟨check, hjudge, hnone⟩ := exists_check_of_mem_weighted hlayer
  rw [← layer.withBias_biasEnabled, hon, hjudge] at h
  rw [hjudge]
  exact Verdict.judgement_eq_ok_iff.2 (hnone _ _ _ _ (Verdict.judgement_eq_ok_iff.1 h))

end Judgements

/-! ## Answers -/

/-- Whether a layer with weights is supported is for the library to say, on an available backend. -/
lemma Backend.support_of_mem_weighted_iff {b : Backend} {layer : Layer} {operands : List TensorInfo}
    (hcompute : b.validator = .compute) (hlayer : layer.kind ∈ LayerKind.weighted) :
    b.supports layer operands = .ok () ↔
      b.availability = .enabled ∧ judge layer operands = .ok () := by
  refine support_eq_ok_iff_judge hcompute ?_ ?_
  · simp only [LayerKind.weighted, List.mem_cons, List.not_mem_nil, or_false] at hlayer
    rcases hlayer with h | h | h <;> rw [h] <;> rfl
  · rintro p rfl
    simp [Layer.kind, LayerKind.weighted] at hlayer

/-- **A bias only restricts.**  Let a convolution of either kind or a fully connected layer be given
input, output and weights.  If its bias is disabled, any fourth operand leaves the status of the
validator as it is without one, and so the answer of every backend that asks the kernel library,
with its reason.  If its bias is enabled, it is refused without a fourth operand, and what is
accepted with one is accepted without one by the same layer with its bias disabled. -/
theorem bias_only_restricts {b : Backend} (hcompute : b.validator = .compute) (layer : Layer)
    (hlayer : layer.kind ∈ LayerKind.weighted) (input output weights bias : TensorInfo) :
    let validate := Validator.compute.validate
    (layer.biasEnabled = false →
      validate layer [input, output, weights, bias] = validate layer [input, output, weights] ∧
      b.supports layer [input, output, weights, bias]
        = b.supports layer [input, output, weights]) ∧
    (layer.biasEnabled = true →
      (validate layer [input, output, weights]
          = .runtimeError (layer.kind.name ++ ": bias enabled but no bias tensor given") ∧
        b.supports layer [input, output, weights] ≠ .ok ()) ∧
      (validate layer [input, output, weights, bias] = .ok →
        validate (layer.withBias false) [input, output, weights] = .ok) ∧
      (b.supports layer [input, output, weights, bias] = .ok () →
        b.supports (layer.withBias false) [input, output, weights] = .ok ())) := by
  intro validate
  have hlayer' : (layer.withBias false).kind ∈ LayerKind.weighted := by
    rwa [layer.kind_withBias]
  refine ⟨fun hoff => ⟨?_, ?_⟩, fun hon => ⟨⟨?_, fun hok => ?_⟩, fun hok => ?_, fun hok => ?_⟩⟩
  · exact congrArg Judgement.status (judge_bias_of_disabled hlayer hoff)
  · exact Backend.support_congr hcompute (Availability.ruling_congr rfl)
      (judge_bias_of_disabled hlayer hoff)
  · exact congrArg Judgement.status (judge_of_missing_bias hlayer hon)
  · obtain ⟨-, hjudge⟩ := (Backend.support_of_mem_weighted_iff hcompute hlayer).1 hok
    rw [judge_of_missing_bias hlayer hon] at hjudge
    cases hjudge
  · have hjudge := Judgement.status_eq_ok_iff.1 hok
    exact Judgement.status_eq_ok_iff.2 (judge_withBias_false hlayer hon hjudge)
  · obtain ⟨havailable, hjudge⟩ := (Backend.support_of_mem_weighted_iff hcompute hlayer).1 hok
    exact (Backend.support_of_mem_weighted_iff hcompute hlayer').2
      ⟨havailable, judge_withBias_false hlayer hon hjudge⟩

/-- A convolution that is supported with its bias: without one it is refused, and with the bias
disabled it is supported, even if a matrix is given in place of the bias. -/
theorem bias_only_restricts_of_matrix :
    let b := Backend.standard
    let input : TensorInfo := ⟨⟨[1, 3, 8, 8]⟩, .float32, {}⟩
    let output : TensorInfo := ⟨⟨[1, 16, 6, 6]⟩, .float32, {}⟩
    let weights : TensorInfo := ⟨⟨[16, 3, 3, 3]⟩, .float32, {}⟩
    let bias : TensorInfo := ⟨⟨[16]⟩, .float32, {}⟩
    let matrix : TensorInfo := ⟨⟨[4, 4]⟩, .signed32, {}⟩
    let layer : Layer := .convolution2d { strideX := 1, strideY := 1, biasEnabled := true }
    b.validator = .compute ∧ layer.kind ∈ LayerKind.weighted ∧ layer.biasEnabled = true ∧
      (layer.withBias false).biasEnabled = false ∧
      b.supports layer [input, output, weights, bias] = .ok () ∧
      b.supports layer [input, output, weights] ≠ .ok () ∧
      b.supports (layer.withBias false) [input, output, weights, matrix] = .ok () := by
  intro b input output weights bias matrix layer
  have hok : b.supports layer [input, output, weights, bias] = .ok () := by decide
  obtain ⟨-, hon⟩ := bias_only_restricts (b := b) rfl layer (by decide) input output weights bias
  obtain ⟨hoff, -⟩ := bias_only_restricts (b := b) rfl (layer.withBias false) (by decide) input
    output weights matrix
  obtain ⟨⟨-, hmissing⟩, -, hrestricts⟩ := hon rfl
  exact ⟨rfl, by decide, rfl, rfl, hok, hmissing, (hoff rfl).2.trans (hrestricts hok)⟩

end NeuralBackend
