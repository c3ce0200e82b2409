import NeuralBackend.Proofs.Kernel.Check.Windowed
import NeuralBackend.Proofs.Support.Judgement
import NeuralBackend.Proofs.WindowCount
import Mathlib.Algebra.Order.Floor.Semifield
import Mathlib.Data.Rat.Floor

/-!
# Which poolings are supported

A pooling keeps the batch and the channels of its input and slides a window over each plane.  What
the library checks is worked out in words and with quotients of natural numbers.
**`pooling_supported_iff`** states the answer of a query in the order of tensor descriptions, with
the extents of the output as rounded fractions.

* `OutputShapeRounding.ofFraction` is how a layer asks for a fraction to be rounded, and
  `quotient_roundingOfLayer` says that the quotients by which the kernel counts windows are rounded
  so.
* `checkPooling_ofInfo_iff` turns the check around: it names the sizes of a pooling and leaves the
  windows on the two axes to conditions of their own.

The fields of a layer reach the check through `Kernel.PoolingInfo.ofLayer`.  What is in these fields
is said of the layer itself (`count?_across_ofLayer_iff`, `count?_down_ofLayer_iff`).  The padding
method comes as far as the kernel, but the check does not look at it
(`judge_pooling2d_paddingMethod`).
-/

namespace NeuralBackend

open Kernel

/-- A fraction rounded as a layer asks for it. -/
def OutputShapeRounding.ofFraction : OutputShapeRounding → ℚ → Nat
  | floor, x => ⌊x⌋₊
  | ceiling, x => ⌈x⌉₊

lemma Kernel.quotient_roundingOfLayer {r : OutputShapeRounding} {n d : Nat} (hd : 1 ≤ d) :
    (roundingOfLayer r).quotient n d = r.ofFraction ((n : ℚ) / d) := by
  cases r with
  | floor => exact (Nat.floor_div_eq_div n d).symm
  | ceiling =>
      have hpos : (0 : ℚ) < d := Nat.cast_pos.2 hd
      refine eq_of_forall_ge_iff fun q => ?_
      rw [roundingOfLayer, Rounding.ceiling_quotient_le_iff hd, OutputShapeRounding.ofFraction,
        Nat.ceil_le, div_le_iff₀ hpos, ← Nat.cast_mul, Nat.cast_le]

/-- The number of positions of a window that has a length and is rounded as a layer asks for it. -/
lemma Slide.count?_eq_some_iff_fraction {s : Slide} {r : OutputShapeRounding} {count : UInt32}
    (hrounding : s.rounding = roundingOfLayer r) (hextent : 1 ≤ s.extent.toNat) :
    s.count? = some count ↔
      1 ≤ s.stride.toNat ∧ s.extent.toNat ≤ s.padded ∧ s.padded < UInt32.size ∧
      count.toNat = r.ofFraction (((s.padded : ℚ) - s.extent.toNat) / s.stride.toNat) + 1 := by
  rw [count?_eq_some_iff, hrounding]
  have hquotient : 1 ≤ s.stride.toNat → s.extent.toNat ≤ s.padded →
      (roundingOfLayer r).quotient s.span s.stride.toNat =
        r.ofFraction (((s.padded : ℚ) - s.extent.toNat) / s.stride.toNat) := by
    intro hstride hfits
    rw [quotient_roundingOfLayer hstride, span, Nat.cast_sub hfits]
  constructor
  · rintro ⟨hstride, -, hfits, hlong, hcount⟩
    exact ⟨hstride, hfits, hlong, by rw [hcount, hquotient hstride hfits]⟩
  · rintro ⟨hstride, hfits, hlong, hcount⟩
    exact ⟨hstride, hextent, hfits, hlong, by rw [hcount, hquotient hstride hfits]⟩

/-! ## Poolings -/

variable {input output : TensorInfo} {p : Pooling}

/-- A pooling of batches of `c` channels, in the order of tensor descriptions. -/
lemma checkPooling_ofInfo_iff {info : PoolingInfo} :
    checkPooling (.ofInfo input) (.ofInfo output) info = .ok () ↔
      input.dataType ∈ floatOrQuantisedTypes ∧ output.dataType = input.dataType ∧
      ¬(input.dataType = .quantisedAsymm8 ∧ info.poolType = .l2) ∧
      (info.window.padding.left < info.sizeX ∧ info.window.padding.right < info.sizeX ∧
        info.window.padding.top < info.sizeY ∧ info.window.padding.bottom < info.sizeY) ∧
      ∃ n c h w oh ow : UInt32,
        input.shape.innermost 4 = [n, c, h, w] ∧ output.shape.innermost 4 = [n, c, oh, ow] ∧
        (info.window.across w info.sizeX).count? = some ow ∧
        (info.window.down h info.sizeY).count? = some oh := by
  rw [checkPooling_ok_iff]
  constructor
  · rintro ⟨htype, houtput, hl2, hpadding, columns, rows, hplane, hbegins⟩
    obtain ⟨hcolumns, hrows⟩ := PadStride.planeCount?_eq_some_iff.1 hplane
    exact ⟨htype, houtput.symm, hl2, hpadding, _, _, _, _, rows, columns,
      Operand.innermost_four input, Operand.begins_ofInfo_iff.1 hbegins, hcolumns, hrows⟩
  · rintro ⟨htype, houtput, hl2, hpadding, n, c, h, w, oh, ow, hinput, hinnermost, hcolumns,
      hrows⟩
    obtain ⟨rfl, rfl, rfl, rfl⟩ := Operand.innermost_four_eq_iff.1 hinput
    exact ⟨htype, houtput.symm, hl2, hpadding, _, _,
      PadStride.planeCount?_eq_some_iff.2 ⟨hcolumns, hrows⟩,
      Operand.begins_ofInfo_iff.2 hinnermost⟩

/-- The positions of a layer's window across the columns. -/
lemma count?_across_ofLayer_iff {w ow : UInt32} (hextent : 1 ≤ p.poolWidth.toNat) :
    let padded := w.toNat + p.padLeft.toNat + p.padRight.toNat
    ((PoolingInfo.ofLayer p).window.across w p.poolWidth).count? = some ow ↔
      1 ≤ p.strideX.toNat ∧ p.poolWidth.toNat ≤ padded ∧ padded < UInt32.size ∧
      ow.toNat = p.outputShapeRounding.ofFraction
        (((padded : ℚ) - p.poolWidth.toNat) / p.strideX.toNat) + 1 := by
  exact Slide.count?_eq_some_iff_fraction rfl hextent

/-- The positions of a layer's window down the rows. -/
lemma count?_down_ofLayer_iff {h oh : UInt32} (hextent : 1 ≤ p.poolHeight.toNat) :
    let padded := h.toNat + p.padTop.toNat + p.padBottom.toNat
    ((PoolingInfo.ofLayer p).window.down h p.poolHeight).count? = some oh ↔
      1 ≤ p.strideY.toNat ∧ p.poolHeight.toNat ≤ padded ∧ padded < UInt32.size ∧
      oh.toNat = p.outputShapeRounding.ofFraction
        (((padded : ℚ) - p.poolHeight.toNat) / p.strideY.toNat) + 1 := by
  exact Slide.count?_eq_some_iff_fraction rfl hextent

/-- The check does not look at how padding counts in an average. -/
lemma checkPooling_excludePadding {x y : Operand} {info : PoolingInfo} (excludePadding : Bool) :
    checkPooling x y { info with excludePadding } = checkPooling x y info := rfl

/-- Of the kernel for a layer, the padding method decides how padding counts in an average and
nothing else. -/
lemma Kernel.PoolingInfo.ofLayer_paddingMethod (paddingMethod : PaddingMethod) :
    ofLayer { p with paddingMethod } =
      { ofLayer p with excludePadding := paddingMethod == .exclude } := rfl

lemma judge_pooling2d_paddingMethod (paddingMethod : PaddingMethod) (operands : List TensorInfo) :
    judge (.pooling2d { p with paddingMethod }) operands = judge (.pooling2d p) operands := by
  have hcheck : ∀ x y, checkPooling x y (.ofLayer { p with paddingMethod }) =
      checkPooling x y (.ofLayer p) := by
    intro x y
    rw [PoolingInfo.ofLayer_paddingMethod, checkPooling_excludePadding]
  simp only [judge, hcheck]

/-- **Supported poolings.**  A query about a pooling is answered `.ok ()` exactly when input and
output have one type with kernels, which is not the quantised one for a pooling by the Euclidean
norm, each padding is smaller than the window in its direction, and the output has the batch and the
channels of the input and on each axis one element more than the strides the window can make,
rounded as the layer asks.  The padding method does not matter for the answer. -/
theorem pooling_supported_iff (p : Pooling) (input output : TensorInfo) :
    (Backend.standard.supportsOperation (.pooling2d p input output) = .ok () ↔
      (input.dataType = .float16 ∨ input.dataType = .float32 ∨
        input.dataType = .quantisedAsymm8) ∧
      output.dataType = input.dataType ∧
      ¬(input.dataType = .quantisedAsymm8 ∧ p.algorithm = .l2) ∧
      (p.padLeft < p.poolWidth ∧ p.padRight < p.poolWidth ∧
        p.padTop < p.poolHeight ∧ p.padBottom < p.poolHeight) ∧
      ∃ n c h w oh ow : UInt32,
        input.shape.innermost 4 = [n, c, h, w] ∧ output.shape.innermost 4 = [n, c, oh, ow] ∧
        (let padded := w.toNat + p.padLeft.toNat + p.padRight.toNat
         1 ≤ p.strideX.toNat ∧ p.poolWidth.toNat ≤ padded ∧ padded < UInt32.size ∧
         ow.toNat = p.outputShapeRounding.ofFraction
           (((padded : ℚ) - p.poolWidth.toNat) / p.strideX.toNat) + 1) ∧
        (let padded := h.toNat + p.padTop.toNat + p.padBottom.toNat
         1 ≤ p.strideY.toNat ∧ p.poolHeight.toNat ≤ padded ∧ padded < UInt32.size ∧
         oh.toNat = p.outputShapeRounding.ofFraction
           (((padded : ℚ) - p.poolHeight.toNat) / p.strideY.toNat) + 1)) ∧
    ∀ paddingMethod : PaddingMethod,
      Backend.standard.supportsOperation (.pooling2d { p with paddingMethod } input output)
        = Backend.standard.supportsOperation (.pooling2d p input output) := by
  have hquery : ∀ p, Backend.standard.supportsOperation (.pooling2d p input output) =
      (judge (.pooling2d p) [input, output]).status.support :=
    fun _ => Backend.support_of_consults rfl rfl
  have hjudge : judge (.pooling2d p) [input, output] = .ok () ↔
      checkPooling (.ofInfo input) (.ofInfo output) (.ofLayer p) = .ok () :=
    Verdict.judgement_eq_ok_iff
  refine ⟨?_, fun paddingMethod => ?_⟩
  · rw [hquery, KernelStatus.support_eq_ok_iff, Judgement.status_isOk_iff, hjudge,
      checkPooling_ofInfo_iff, mem_floatOrQuantisedTypes_iff]
    refine and_congr_right fun _ => and_congr_right fun _ => and_congr
      (not_congr (and_congr_right fun _ => PoolingType.ofLayer_eq_l2_iff))
      (and_congr_right fun ⟨hleft, _, htop, _⟩ => ?_)
    have hwidth : 1 ≤ p.poolWidth.toNat := Nat.one_le_of_lt (UInt32.lt_iff_toNat_lt.1 hleft)
    have hheight : 1 ≤ p.poolHeight.toNat := Nat.one_le_of_lt (UInt32.lt_iff_toNat_lt.1 htop)
    constructor
    · rintro ⟨n, c, h, w, oh, ow, hinput, hinnermost, hcolumns, hrows⟩
      exact ⟨n, c, h, w, oh, ow, hinput, hinnermost,
        (count?_across_ofLayer_iff hwidth).1 hcolumns, (count?_down_ofLayer_iff hheight).1 hrows⟩
    · rintro ⟨n, c, h, w, oh, ow, hinput, hinnermost, hcolumns, hrows⟩
      exact ⟨n, c, h, w, oh, ow, hinput, hinnermost,
        (count?_across_ofLayer_iff hwidth).2 hcolumns, (count?_down_ofLayer_iff hheight).2 hrows⟩
  · rw [hquery, hquery, judge_pooling2d_paddingMethod]

/-- Columns and rows apart: seven columns with one more on the left under a window of three that
moves by two, with a partial last stride, and seven rows with one more below under a window of
two. -/
example :
    let p : Pooling :=
      { algorithm := .max, padLeft := 1, padBottom := 1, poolWidth := 3, poolHeight := 2,
        strideX := 2, strideY := 1, outputShapeRounding := .ceiling }
    Backend.standard.supportsOperation
      (.pooling2d p { shape := ⟨[5, 7, 7]⟩, dataType := .float32 }
        { shape := ⟨[1, 5, 7, 4]⟩, dataType := .float32 }) = .ok () := by decide

end NeuralBackend
