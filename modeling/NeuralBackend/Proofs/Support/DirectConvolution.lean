import NeuralBackend.Proofs.Support.Convolution
import NeuralBackend.Support.ConvolutionMethod

/-!
# When the direct kernel is chosen

The method of a convolution is chosen by its parameters and its weights alone, and the weights are
read at two places counted from the outside.  The direct kernel needs more: four operands of single
precision, weights of four dimensions with one column and one row, and an output that goes with
input, strides and bias.  **`direct_within_limits`**: where a convolution is supported, the choice
has established all of it.

**What each side contributes.**  The choice says nothing about input, output and bias, nor that
there are no more than four dimensions of weights (`Convolution.method_eq_direct_iff`).  Support
says that the types are one, that the third and the fourth dimension of the weights are the
innermost two, and that an enabled bias is there.  With no padding and a window of one element,
windows stand at every stride from the first element on (`Slide.count?_point_iff`).

**The other way.**  A supported convolution that is within the limits is never left to the general
method.
-/

namespace NeuralBackend

open Kernel

/-! ## The choice -/

lemma isDirectStride_iff {stride : UInt32} :
    isDirectStride stride = true ↔ 1 ≤ stride.toNat ∧ stride.toNat ≤ 3 := by
  rw [isDirectStride, Bool.and_eq_true, decide_eq_true_eq, decide_eq_true_eq]

lemma Padding.isZero_iff {p : Padding} : p.isZero = true ↔ p = {} := beq_iff_eq

/-- The direct method is chosen for single precision weights with one column and one row, where they
are read, strides from one to three, no padding and an enabled bias. -/
lemma Convolution.method_eq_direct_iff {p : Convolution} {weights : TensorInfo} :
    p.method weights = .direct ↔
      weights.dataType = .float32 ∧ (1 ≤ p.strideX.toNat ∧ p.strideX.toNat ≤ 3) ∧
      (1 ≤ p.strideY.toNat ∧ p.strideY.toNat ≤ 3) ∧
      (weights.shape.dim? 2 = some 1 ∧ weights.shape.dim? 3 = some 1) ∧
      p.padding = {} ∧ p.biasEnabled = true := by
  have hmethod : p.method weights = .direct ↔ p.prefersDirect weights = true := by
    rw [method]
    split_ifs with h
    · exact iff_of_true rfl h
    · exact iff_of_false (by decide) h
  rw [hmethod]
  simp only [prefersDirect, Bool.and_eq_true, beq_iff_eq, isDirectStride_iff, Padding.isZero_iff,
    and_assoc]

/-! ## What is supported -/

/-- A window of one element over an axis without padding stands at every stride that starts on the
axis. -/
lemma Slide.count?_point_iff {size stride count : UInt32} :
    Slide.count? ⟨.floor, size, 0, 0, 1, stride⟩ = some count ↔
      1 ≤ stride.toNat ∧ 1 ≤ size.toNat ∧
      count.toNat = (size.toNat - 1) / stride.toNat + 1 := by
  have hpadded : Slide.padded ⟨.floor, size, 0, 0, 1, stride⟩ = size.toNat := rfl
  have hsize : size.toNat < UInt32.size := size.toNat_lt_size
  rw [count?_eq_some_iff, span, hpadded]
  constructor
  · rintro ⟨hstride, -, hfits, -, hcount⟩
    exact ⟨hstride, hfits, hcount⟩
  · rintro ⟨hstride, hfits, hcount⟩
    exact ⟨hstride, le_refl 1, hfits, hsize, hcount⟩

/-- With a stride of one there is a window at each element. -/
lemma Slide.eq_of_unit_stride {size stride count : UInt32} (hsize : 1 ≤ size.toNat)
    (hcount : count.toNat = (size.toNat - 1) / stride.toNat + 1) (hstride : stride = 1) :
    count = size := by
  subst hstride
  have hquotient : (size.toNat - 1) / UInt32.toNat 1 = size.toNat - 1 := Nat.div_one _
  rw [← UInt32.toNat_inj, hcount, hquotient, Nat.sub_add_cancel hsize]

/-- Without padding, each axis is covered from its first to its last element. -/
lemma Convolution.window_of_no_padding {p : Convolution} (hpadding : p.padding = {}) :
    (∀ size extent, p.window.across size extent = ⟨.floor, size, 0, 0, extent, p.strideX⟩) ∧
      ∀ size extent, p.window.down size extent = ⟨.floor, size, 0, 0, extent, p.strideY⟩ := by
  simp only [PadStride.across, PadStride.down, Convolution.window, hpadding, implies_true, and_self]

variable {p : Convolution} {input output weights : TensorInfo} {biases : Option TensorInfo}

/-- A convolution is supported when its bias is there, if it is enabled, and the check passes. -/
lemma Backend.supports_convolution2d_iff :
    Backend.standard.supportsOperation (.convolution2d p input output weights biases) = .ok () ↔
      (p.biasEnabled = true → biases.isSome = true) ∧
      checkConvolution (.ofInfo input) (.ofInfo weights) (enabledBias p.biasEnabled biases)
        (.ofInfo output) p.window = .ok () := by
  have hquery : Backend.standard.supportsOperation (.convolution2d p input output weights biases)
      = .ok () ↔ judge (.convolution2d p) ([input, output, weights] ++ biases.toList) = .ok () :=
    standard_query_eq_ok_iff rfl
  rw [hquery]
  simp only [judge, judgeWeighted_append_ok_iff, Verdict.judgement_eq_ok_iff]

/-- **The direct kernel stays within its limits.**  Let a convolution be supported.  If the direct
method is chosen for it, there is a bias, all four operands are of single precision, the weights are
`[o, c, 1, 1]` and the bias is a vector of `o` elements.  The input, read as `[n, c, h, w]`, has a
row and a column, the strides are from one to three, and the output reads as `[n, o, oh, ow]` with
one element for each stride that starts on the axis; with a stride of one the axis keeps its length.
Conversely the direct method is chosen for every supported convolution of single precision with a
kernel of one element, no padding, an enabled bias and such strides. -/
theorem direct_within_limits
    (hsupported : Backend.standard.supportsOperation
      (.convolution2d p input output weights biases) = .ok ()) :
    ((p.selectMethod weights).1 = .direct →
      ∃ b, biases = some b ∧ (∀ x ∈ [input, output, weights, b], x.dataType = .float32) ∧
      ∃ n c h w o oh ow : UInt32,
        weights.shape.dims = [o, c, 1, 1] ∧ b.shape.dims = [o] ∧ input.rank ≤ 4 ∧
        input.shape.innermost 4 = [n, c, h, w] ∧ output.shape.innermost 4 = [n, o, oh, ow] ∧
        (1 ≤ h.toNat ∧ 1 ≤ p.strideY.toNat ∧ p.strideY.toNat ≤ 3 ∧
          oh.toNat = (h.toNat - 1) / p.strideY.toNat + 1 ∧ (p.strideY = 1 → oh = h)) ∧
        (1 ≤ w.toNat ∧ 1 ≤ p.strideX.toNat ∧ p.strideX.toNat ≤ 3 ∧
          ow.toNat = (w.toNat - 1) / p.strideX.toNat + 1 ∧ (p.strideX = 1 → ow = w))) ∧
    (input.dataType = .float32 → weights.shape.innermost 2 = [1, 1] → p.padding = {} →
      p.biasEnabled = true → 1 ≤ p.strideX.toNat ∧ p.strideX.toNat ≤ 3 →
      1 ≤ p.strideY.toNat ∧ p.strideY.toNat ≤ 3 → (p.selectMethod weights).1 = .direct) := by
  have hselect : (p.selectMethod weights).1 = p.method weights := rfl
  obtain ⟨hgiven, hcheck⟩ := Backend.supports_convolution2d_iff.1 hsupported
  obtain ⟨-, hweights, houtput, hrank, n, c, h, w, o, kh, kw, oh, ow, hinput, hdims, hinnermost,
    hfits, hcolumns, hrows⟩ := checkConvolution_ofInfo_iff.1 hcheck
  have hrow : weights.shape.dim? 2 = some kh := by rw [Shape.dim?, hdims]; rfl
  have hcolumn : weights.shape.dim? 3 = some kw := by rw [Shape.dim?, hdims]; rfl
  rw [hselect, Convolution.method_eq_direct_iff, hrow, hcolumn, Option.some.injEq,
    Option.some.injEq]
  constructor
  · rintro ⟨htype, hstrideX, hstrideY, ⟨rfl, rfl⟩, hpadding, henabled⟩
    obtain ⟨b, hb, hvector, hbias⟩ := biasFits_enabledBias_iff.1 ⟨hgiven, hfits⟩ henabled
    have hinputType : input.dataType = .float32 := hweights.symm.trans htype
    have houtputType : output.dataType = .float32 := houtput.trans hinputType
    have hbiasType : b.dataType = .float32 := hbias.trans (by rw [hinputType]; rfl)
    obtain ⟨hacross, hdown⟩ := p.window_of_no_padding hpadding
    rw [hacross] at hcolumns
    rw [hdown] at hrows
    obtain ⟨-, hwidth, hcolumns⟩ := Slide.count?_point_iff.1 hcolumns
    obtain ⟨-, hheight, hrows⟩ := Slide.count?_point_iff.1 hrows
    refine ⟨b, hb, ?_, n, c, h, w, o, oh, ow, hdims, hvector, hrank, hinput, hinnermost,
      ⟨hheight, hstrideY.1, hstrideY.2, hrows, Slide.eq_of_unit_stride hheight hrows⟩,
      ⟨hwidth, hstrideX.1, hstrideX.2, hcolumns, Slide.eq_of_unit_stride hwidth hcolumns⟩⟩
    simp only [List.forall_mem_cons, List.not_mem_nil, false_implies, implies_true, and_true]
    exact ⟨hinputType, houtputType, htype, hbiasType⟩
  · intro htype hkernel hpadding henabled hstrideX hstrideY
    have hpoint : [kh, kw] = [1, 1] := by
      rw [← hkernel, Shape.innermost, Shape.rank, hdims]
      rfl
    obtain ⟨rfl, rfl⟩ : kh = 1 ∧ kw = 1 := by simpa using hpoint
    exact ⟨hweights.trans htype, hstrideX, hstrideY, ⟨rfl, rfl⟩, hpadding, henabled⟩

/-- Sixteen kernels of one element over eight channels, at every second column and every third row.
The direct method is chosen, and the output has two columns and two rows.  Without support the
choice says less: it is the same for weights with a fifth dimension, which no convolution has. -/
theorem direct_within_limits_of_strides :
    let p : Convolution := { strideX := 2, strideY := 3, biasEnabled := true }
    let input : TensorInfo := ⟨⟨[2, 8, 5, 4]⟩, .float32, {}⟩
    let output : TensorInfo := ⟨⟨[2, 16, 2, 2]⟩, .float32, {}⟩
    let weights : TensorInfo := ⟨⟨[16, 8, 1, 1]⟩, .float32, {}⟩
    let weights' : TensorInfo := ⟨⟨[16, 8, 1, 1, 7]⟩, .float32, {}⟩
    let bias : TensorInfo := ⟨⟨[16]⟩, .float32, {}⟩
    Backend.standard.supportsOperation (.convolution2d p input output weights (some bias)) =
        .ok () ∧
      (p.selectMethod weights).1 = .direct ∧
      (∃ o c : UInt32, weights.shape.dims = [o, c, 1, 1] ∧ bias.shape.dims = [o]) ∧
      (p.selectMethod weights').1 = .direct ∧
      Backend.standard.supportsOperation (.convolution2d p input output weights' (some bias)) ≠
        .ok () := by
  intro p input output weights weights' bias
  have hsupported : Backend.standard.supportsOperation
      (.convolution2d p input output weights (some bias)) = .ok () := by decide
  obtain ⟨hlimits, hchosen⟩ := direct_within_limits hsupported
  have hdirect : (p.selectMethod weights).1 = .direct :=
    hchosen rfl (by decide) rfl rfl (by decide) (by decide)
  obtain ⟨_, ⟨⟩, -, -, c, -, -, o, -, -, hdims, hvector, -⟩ := hlimits hdirect
  exact ⟨hsupported, hdirect, ⟨o, c, hdims, hvector⟩, by decide, by decide⟩

end NeuralBackend
