import NeuralBackend.Proofs.Support.Convolution
import NeuralBackend.Proofs.WindowCount

/-!
# Which depthwise convolutions are accepted

A depthwise convolution applies `m` kernels to each channel on its own, so that its output has as
many channels as the input times `m`.  Its weights are `[m, channels, height, width]`; one kernel
for each channel can also be given as `[channels, height, width]`.  **`depthwise_accepted_iff`**
states what the validator of the kernel library accepts in the order of tensor descriptions, and
that the two forms of one kernel for each channel are told apart by nothing that the validator says.

* `Shape.kernels_iff` says which weights the two ranks leave, once they are read as four dimensions.
* `checkDepthwiseConvolution_ofInfo_iff` turns the check around, as for the plain convolution.
* `checkDepthwiseConvolution_congr`: nothing in the check depends on the rank of the weights beyond
  the test of the rank itself.
-/

namespace NeuralBackend

open Kernel

lemma Shape.innermost_rank_add_one (s : Shape) : s.innermost (s.rank + 1) = 1 :: s.dims := by
  simp [innermost, List.leftpad, rank]

/-- Weights of rank three have no multiplier of their own, and it reads as one. -/
lemma Shape.kernels_iff {s : Shape} {m c kh kw : UInt32} :
    (s.rank = 3 ∨ s.rank = 4) ∧ s.innermost 4 = [m, c, kh, kw] ↔
      s.dims = [m, c, kh, kw] ∨ s.dims = [c, kh, kw] ∧ m = 1 := by
  constructor
  · rintro ⟨hrank | hrank, hdims⟩
    · have hone := s.innermost_rank_add_one
      rw [hrank, hdims] at hone
      obtain ⟨hm, hrest⟩ := List.cons.inj hone
      exact .inr ⟨hrest.symm, hm⟩
    · exact .inl (dims_eq_iff.2 ⟨hrank, hdims⟩)
  · rintro (hdims | ⟨hdims, rfl⟩)
    · obtain ⟨hrank, hinnermost⟩ := dims_eq_iff.1 hdims
      exact ⟨.inr hrank, hinnermost⟩
    · have hrank : s.rank = 3 := congrArg List.length hdims
      have hone := s.innermost_rank_add_one
      rw [hrank, hdims] at hone
      exact ⟨.inl hrank, hone⟩

variable {input output weights : TensorInfo}

/-- A depthwise convolution of batches of `c` channels by `m` kernels for each of them, in the order
of tensor descriptions. -/
lemma checkDepthwiseConvolution_ofInfo_iff {biases : Option Operand} {window : PadStride} :
    checkDepthwiseConvolution (.ofInfo input) (.ofInfo weights) biases (.ofInfo output) window
        = .ok () ↔
      input.dataType ∈ floatOrQuantisedTypes ∧ weights.dataType = input.dataType ∧
      output.dataType = input.dataType ∧ input.rank ≤ 4 ∧
      ∃ n c h w m kh kw k oh ow : UInt32,
        input.shape.innermost 4 = [n, c, h, w] ∧
        (weights.shape.dims = [m, c, kh, kw] ∨ weights.shape.dims = [c, kh, kw] ∧ m = 1) ∧
        k.toNat = c.toNat * m.toNat ∧ output.shape.innermost 4 = [n, k, oh, ow] ∧
        BiasFits (.ofInfo input) biases k ∧
        (window.across w kw).count? = some ow ∧ (window.down h kh).count? = some oh := by
  rw [checkDepthwiseConvolution_ok_iff, Operand.rank_ofInfo, Operand.rank_ofInfo]
  constructor
  · rintro ⟨htype, hweights, houtput, hrank, hweightRank, hchannels, k, hk, hbias, columns, rows,
      hplane, hbegins⟩
    obtain ⟨hcolumns, hrows⟩ := PadStride.planeCount?_eq_some_iff.1 hplane
    have hkernels := Shape.kernels_iff.1 ⟨hweightRank, Operand.innermost_four weights⟩
    have hkernelChannels : (Operand.ofInfo weights).channels = (Operand.ofInfo input).channels :=
      hchannels
    have hproduct := word?_eq_some_iff.1 hk
    rw [hchannels] at hproduct
    rw [hkernelChannels] at hkernels
    exact ⟨htype, hweights.symm, houtput.symm, hrank, _, _, _, _, _, _, _, k, rows, columns,
      Operand.innermost_four input, hkernels, hproduct, Operand.begins_ofInfo_iff.1 hbegins, hbias,
      hcolumns, hrows⟩
  · rintro ⟨htype, hweights, houtput, hrank, n, c, h, w, m, kh, kw, k, oh, ow, hinput, hdims, hk,
      hinnermost, hbias, hcolumns, hrows⟩
    obtain ⟨hweightRank, hkernel⟩ := Shape.kernels_iff.2 hdims
    obtain ⟨rfl, rfl, rfl, rfl⟩ := Operand.innermost_four_eq_iff.1 hinput
    obtain ⟨rfl, hchannels, rfl, rfl⟩ := Operand.innermost_four_eq_iff.1 hkernel
    rw [← hchannels] at hk
    exact ⟨htype, hweights.symm, houtput.symm, hrank, hweightRank, hchannels, k,
      word?_eq_some_iff.2 hk, hbias, _, _, PadStride.planeCount?_eq_some_iff.2 ⟨hcolumns, hrows⟩,
      Operand.begins_ofInfo_iff.2 hinnermost⟩

/-! ## The two forms of one kernel for each channel -/

/-- The check reads weights of either rank alike. -/
lemma checkDepthwiseConvolution_congr {x kernels kernels' y : Operand} {biases : Option Operand}
    {window : PadStride} (htype : kernels'.dataType = kernels.dataType)
    (hrank : kernels.rank = 3 ∨ kernels.rank = 4) (hrank' : kernels'.rank = 3 ∨ kernels'.rank = 4)
    (hdim : ∀ i, kernels'.dim i = kernels.dim i) :
    checkDepthwiseConvolution x kernels' biases y window
      = checkDepthwiseConvolution x kernels biases y window := by
  have hwidth : kernels'.width = kernels.width := hdim 0
  have hheight : kernels'.height = kernels.height := hdim 1
  have hpass : Routine.depthwiseConvolution.require (kernels.rank = 3 ∨ kernels.rank = 4)
      (.weightRank "3 or 4") = .ok () := Routine.require_ok_iff.2 hrank
  have hpass' : Routine.depthwiseConvolution.require (kernels'.rank = 3 ∨ kernels'.rank = 4)
      (.weightRank "3 or 4") = .ok () := Routine.require_ok_iff.2 hrank'
  simp only [checkDepthwiseConvolution, Routine.requireSameType, Routine.requireConvolved, htype,
    hpass, hpass', hdim, hwidth, hheight]

/-- **Accepted depthwise convolutions.**  The validator accepts input, output, weights and perhaps a
bias, and no other operands.  The input, read as `[n, c, h, w]`, the weights `[m, c, kh, kw]`, or
`[c, kh, kw]` for `m = 1`, and the output, read as `[n, k, oh, ow]` with the word `k` the product of
`c` and `m`, have one type with kernels; the window fits both axes and has as many positions as the
output has columns and rows; an enabled bias is a vector with one element for each of the `k`
channels.  Weights `[c, kh, kw]` and `[1, c, kh, kw]` are answered alike, down to the text of a
refusal. -/
theorem depthwise_accepted_iff (p : Convolution) :
    (∀ operands : List TensorInfo,
      Validator.compute.validate (.depthwiseConvolution2d p) operands = .ok ↔
        ∃ input output weights biases,
          operands = [input, output, weights] ++ Option.toList biases ∧
          (input.dataType = .float16 ∨ input.dataType = .float32 ∨
            input.dataType = .quantisedAsymm8) ∧
          weights.dataType = input.dataType ∧ output.dataType = input.dataType ∧ input.rank ≤ 4 ∧
          ∃ n c h w m kh kw k oh ow : UInt32,
            input.shape.innermost 4 = [n, c, h, w] ∧
            (weights.shape.dims = [m, c, kh, kw] ∨ weights.shape.dims = [c, kh, kw] ∧ m = 1) ∧
            k.toNat = c.toNat * m.toNat ∧ output.shape.innermost 4 = [n, k, oh, ow] ∧
            ((p.window.across w kw).Fits ∧ (p.window.across w kw).Counts ow.toNat) ∧
            ((p.window.down h kh).Fits ∧ (p.window.down h kh).Counts oh.toNat) ∧
            (p.biasEnabled = true → ∃ b, biases = some b ∧ b.shape.dims = [k] ∧
              b.dataType =
                if input.dataType = .quantisedAsymm8 then .signed32 else input.dataType)) ∧
    ∀ (input output weights : TensorInfo) (c kh kw : UInt32) (rest : List TensorInfo),
      Validator.compute.validate (.depthwiseConvolution2d p)
          (input :: output :: { weights with shape := ⟨[c, kh, kw]⟩ } :: rest)
        = Validator.compute.validate (.depthwiseConvolution2d p)
          (input :: output :: { weights with shape := ⟨[1, c, kh, kw]⟩ } :: rest) := by
  refine ⟨fun operands => ?_, fun input output weights c kh kw rest => ?_⟩
  · have hstatus : Validator.compute.validate (.depthwiseConvolution2d p) operands = .ok ↔
        judge (.depthwiseConvolution2d p) operands = .ok () := Judgement.status_eq_ok_iff
    rw [hstatus, judge, judgeWeighted_ok_iff]
    refine exists_congr fun input => exists_congr fun output => exists_congr fun weights =>
      exists_congr fun biases => and_congr_right fun _ => ?_
    rw [Verdict.judgement_eq_ok_iff, checkDepthwiseConvolution_ofInfo_iff,
      mem_floatOrQuantisedTypes_iff, ← biasType_eq]
    constructor
    · rintro ⟨hgiven, htype, hweights, houtput, hrank, n, c, h, w, m, kh, kw, k, oh, ow, hinput,
        hdims, hk, hinnermost, hfits, hcolumns, hrows⟩
      exact ⟨htype, hweights, houtput, hrank, n, c, h, w, m, kh, kw, k, oh, ow, hinput, hdims, hk,
        hinnermost, Slide.count?_eq_some_iff_counts.1 hcolumns,
        Slide.count?_eq_some_iff_counts.1 hrows, biasFits_enabledBias_iff.1 ⟨hgiven, hfits⟩⟩
    · rintro ⟨htype, hweights, houtput, hrank, n, c, h, w, m, kh, kw, k, oh, ow, hinput, hdims, hk,
        hinnermost, hcolumns, hrows, hbias⟩
      obtain ⟨hgiven, hfits⟩ := biasFits_enabledBias_iff.2 hbias
      exact ⟨hgiven, htype, hweights, houtput, hrank, n, c, h, w, m, kh, kw, k, oh, ow, hinput,
        hdims, hk, hinnermost, hfits, Slide.count?_eq_some_iff_counts.2 hcolumns,
        Slide.count?_eq_some_iff_counts.2 hrows⟩
  · refine congrArg Judgement.status ?_
    rw [judge, judge, List.map_cons, List.map_cons, List.map_cons, List.map_cons, List.map_cons,
      List.map_cons]
    refine judgeWeighted_congr (fun biases => congrArg Verdict.judgement ?_) _
    refine checkDepthwiseConvolution_congr rfl (.inr rfl) (.inl rfl) fun i => ?_
    -- innermost first, the one of the longer list comes last
    have hones : ∀ d ∈ [(1 : UInt32)], d = 1 := fun d hd => List.mem_singleton.1 hd
    exact (Operand.getD_append_ones hones i).symm

end NeuralBackend
