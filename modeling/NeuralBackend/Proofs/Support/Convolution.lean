import NeuralBackend.Proofs.Kernel.Check.Windowed
import NeuralBackend.Proofs.Support.Judgement
import NeuralBackend.Proofs.Window

/-!
# Which convolutions are supported

Tensor descriptions list dimensions outermost first, activations as
`[batch, channels, height, width]` and weights as `[outputs, inputs, height, width]`; the kernel
library counts them from the inside, and takes the operands in another order.
**`convolution_supported_iff`** states the answer of a query in the order of the descriptions, with
all sizes worked out over the natural numbers.

* `checkConvolution_ofInfo_iff` turns the check around: it names the sizes of a convolution, and
  leaves the windows on the two axes and the bias to conditions of their own.
* `biasFits_enabledBias_iff` says what is asked of the bias of a description.
-/

namespace NeuralBackend

open Kernel

variable {input output weights : TensorInfo}

/-- A convolution of batches of `c` channels by `o` kernels, in the order of tensor descriptions. -/
lemma checkConvolution_ofInfo_iff {biases : Option Operand} {window : PadStride} :
    checkConvolution (.ofInfo input) (.ofInfo weights) biases (.ofInfo output) window = .ok () ↔
      input.dataType ∈ floatOrQuantisedTypes ∧ weights.dataType = input.dataType ∧
      output.dataType = input.dataType ∧ input.rank ≤ 4 ∧
      ∃ n c h w o kh kw oh ow : UInt32,
        input.shape.innermost 4 = [n, c, h, w] ∧ weights.shape.dims = [o, c, kh, kw] ∧
        output.shape.innermost 4 = [n, o, oh, ow] ∧ BiasFits (.ofInfo input) biases o ∧
        (window.across w kw).count? = some ow ∧ (window.down h kh).count? = some oh := by
  rw [checkConvolution_ok_iff]
  constructor
  · rintro ⟨htype, hweights, houtput, hrank, hweightRank, hchannels, hbias, columns, rows, hplane,
      hbegins⟩
    obtain ⟨hcolumns, hrows⟩ := PadStride.planeCount?_eq_some_iff.1 hplane
    have hdims : weights.shape.dims =
        [(Operand.ofInfo weights).batch, (Operand.ofInfo input).channels,
          (Operand.ofInfo weights).height, (Operand.ofInfo weights).width] := by
      rw [Shape.dims_eq_iff, ← hchannels]
      exact ⟨(Operand.rank_ofInfo weights).symm.trans hweightRank, Operand.innermost_four weights⟩
    exact ⟨htype, hweights.symm, houtput.symm, (Operand.rank_ofInfo input).symm.trans_le hrank,
      _, _, _, _, _, _, _, _, _, Operand.innermost_four input, hdims,
      Operand.begins_ofInfo_iff.1 hbegins, hbias, hcolumns, hrows⟩
  · rintro ⟨htype, hweights, houtput, hrank, n, c, h, w, o, kh, kw, oh, ow, hinput, hdims,
      hinnermost, hbias, hcolumns, hrows⟩
    obtain ⟨hweightRank, hkernel⟩ := Shape.dims_eq_iff.1 hdims
    obtain ⟨rfl, rfl, rfl, rfl⟩ := Operand.innermost_four_eq_iff.1 hinput
    obtain ⟨rfl, hchannels, rfl, rfl⟩ := Operand.innermost_four_eq_iff.1 hkernel
    exact ⟨htype, hweights.symm, houtput.symm, (Operand.rank_ofInfo input).trans_le hrank,
      (Operand.rank_ofInfo weights).trans hweightRank, hchannels, hbias, _, _,
      PadStride.planeCount?_eq_some_iff.2 ⟨hcolumns, hrows⟩,
      Operand.begins_ofInfo_iff.2 hinnermost⟩

/-- An enabled bias has to be there, as a vector of the type that goes with the input; nothing is
asked of one that is not enabled. -/
lemma biasFits_enabledBias_iff {biasEnabled : Bool} {biases : Option TensorInfo} {length : UInt32} :
    ((biasEnabled = true → biases.isSome = true) ∧
      BiasFits (.ofInfo input) (enabledBias biasEnabled biases) length) ↔
      (biasEnabled = true → ∃ b, biases = some b ∧ b.shape.dims = [length] ∧
        b.dataType = biasType input.dataType) := by
  cases biasEnabled with
  | false =>
      refine iff_of_true ⟨fun h => ?_, fun b hb => ?_⟩ fun h => ?_
      · cases h
      · cases hb
      · cases h
  | true =>
      cases biases with
      | none =>
          refine iff_of_false (fun h => ?_) fun h => ?_
          · cases h.1 rfl
          · obtain ⟨_, hb, -⟩ := h rfl
            cases hb
      | some b =>
          have hfits : BiasFits (.ofInfo input) (enabledBias true (some b)) length ↔
              b.dataType = biasType input.dataType ∧ b.shape.dims = [length] := by
            rw [← Operand.vector_ofInfo_iff]
            simp only [BiasFits, enabledBias, if_true, Option.map_some, Option.mem_def,
              Option.some.injEq, forall_eq']
            rfl
          constructor
          · rintro ⟨-, h⟩ -
            obtain ⟨htype, hvector⟩ := hfits.1 h
            exact ⟨b, rfl, hvector, htype⟩
          · intro h
            obtain ⟨_, ⟨⟩, hvector, htype⟩ := h rfl
            exact ⟨fun _ => rfl, hfits.2 ⟨htype, hvector⟩⟩

/-- **Supported convolutions.**  A query about a convolution is answered `.ok ()` exactly when the
input, read as `[n, c, h, w]`, the weights `[o, c, kh, kw]` and the output, read as
`[n, o, oh, ow]`, have one type with kernels, the window fits the padded plane on both axes and
makes the output, and an enabled bias is a vector with one element for each kernel. -/
theorem convolution_supported_iff (p : Convolution) (input output weights : TensorInfo)
    (biases : Option TensorInfo) :
    Backend.standard.supportsOperation (.convolution2d p input output weights biases) = .ok () ↔
      (input.dataType = .float16 ∨ input.dataType = .float32 ∨
        input.dataType = .quantisedAsymm8) ∧
      weights.dataType = input.dataType ∧ output.dataType = input.dataType ∧ input.rank ≤ 4 ∧
      ∃ n c h w o kh kw oh ow : UInt32,
        input.shape.innermost 4 = [n, c, h, w] ∧ weights.shape.dims = [o, c, kh, kw] ∧
        output.shape.innermost 4 = [n, o, oh, ow] ∧
        (let padded := w.toNat + p.padding.left.toNat + p.padding.right.toNat
         1 ≤ p.strideX.toNat ∧ 1 ≤ kw.toNat ∧ kw.toNat ≤ padded ∧ padded < UInt32.size ∧
         ow.toNat = (padded - kw.toNat) / p.strideX.toNat + 1) ∧
        (let padded := h.toNat + p.padding.top.toNat + p.padding.bottom.toNat
         1 ≤ p.strideY.toNat ∧ 1 ≤ kh.toNat ∧ kh.toNat ≤ padded ∧ padded < UInt32.size ∧
         oh.toNat = (padded - kh.toNat) / p.strideY.toNat + 1) ∧
        (p.biasEnabled = true → ∃ b, biases = some b ∧ b.shape.dims = [o] ∧
          b.dataType =
            if input.dataType = .quantisedAsymm8 then .signed32 else input.dataType) := by
  have hquery : Backend.standard.supportsOperation (.convolution2d p input output weights biases)
      = .ok () ↔ judge (.convolution2d p) ([input, output, weights] ++ biases.toList) = .ok () :=
    Backend.standard_query_eq_ok_iff rfl
  have hjudge : judge (.convolution2d p) ([input, output, weights] ++ biases.toList) = .ok () ↔
      (p.biasEnabled = true → biases.isSome = true) ∧
      checkConvolution (.ofInfo input) (.ofInfo weights) (enabledBias p.biasEnabled biases)
        (.ofInfo output) p.window = .ok () := by
    simp only [judge, judgeWeighted_append_ok_iff, Verdict.judgement_eq_ok_iff]
  rw [hquery, hjudge, checkConvolution_ofInfo_iff, mem_floatOrQuantisedTypes_iff, ← biasType_eq]
  constructor
  · rintro ⟨hgiven, htype, hweights, houtput, hrank, n, c, h, w, o, kh, kw, oh, ow, hinput, hdims,
      hinnermost, hfits, hcolumns, hrows⟩
    exact ⟨htype, hweights, houtput, hrank, n, c, h, w, o, kh, kw, oh, ow, hinput, hdims,
      hinnermost, Slide.count?_eq_some_iff.1 hcolumns, Slide.count?_eq_some_iff.1 hrows,
      biasFits_enabledBias_iff.1 ⟨hgiven, hfits⟩⟩
  · rintro ⟨htype, hweights, houtput, hrank, n, c, h, w, o, kh, kw, oh, ow, hinput, hdims,
      hinnermost, hcolumns, hrows, hbias⟩
    obtain ⟨hgiven, hfits⟩ := biasFits_enabledBias_iff.2 hbias
    exact ⟨hgiven, htype, hweights, houtput, hrank, n, c, h, w, o, kh, kw, oh, ow, hinput, hdims,
      hinnermost, hfits, Slide.count?_eq_some_iff.2 hcolumns, Slide.count?_eq_some_iff.2 hrows⟩

end NeuralBackend
