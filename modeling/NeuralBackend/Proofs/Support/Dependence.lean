import NeuralBackend.Proofs.Support.Precheck
import Mathlib.Data.List.Forall2

/-!
# What an answer depends on

A query is shown the quantisation of every operand and hardly ever looks at it.  `TensorInfo.plain`
forgets it.

**In front of the kernel library** nothing is read of the operands but the type of the first one
(`Layer.ruling_congr`).  The kinds that are judged by that type alone are answered from it and from
the kind (`Layer.ruling_of_dataType`), so neither the parameters of the layer nor the rest of the
operands can make a difference there.

**In the kernel library** every check but one gives the same verdict, with the same words, on plain
operands (`judge_plain`).  The exception is the softmax of quantised operands, which compares the
quantisation of its output with the one its kernel writes (`checkSoftmax_congr`).

**`Backend.support_depends_only`** puts the three together for two queries with operands of the same
shapes and types.
-/

namespace NeuralBackend

/-- The description without its quantisation. -/
def TensorInfo.plain (info : TensorInfo) : TensorInfo := { info with quantization := {} }

/-- The two descriptions have one shape and one element type; they may be quantised differently. -/
def TensorInfo.Alike (x y : TensorInfo) : Prop := x.shape = y.shape ∧ x.dataType = y.dataType

lemma TensorInfo.plain_eq_iff {x y : TensorInfo} : x.plain = y.plain ↔ x.Alike y := by
  simp [plain, Alike]

lemma TensorInfo.map_plain_eq_iff {xs ys : List TensorInfo} :
    xs.map plain = ys.map plain ↔ List.Forall₂ Alike xs ys := by
  rw [← List.forall₂_eq_eq_eq, List.forall₂_map_left_iff, List.forall₂_map_right_iff]
  simp only [plain_eq_iff]

/-! ## In front of the kernel library -/

section Ruling

variable {layer : Layer} {xs ys : List TensorInfo}

lemma Layer.ruling_congr
    (h : xs.head?.map TensorInfo.dataType = ys.head?.map TensorInfo.dataType) :
    layer.ruling xs = layer.ruling ys := by
  cases xs with
  | nil =>
      cases ys with
      | nil => rfl
      | cons y ys => cases h
  | cons x xs =>
      cases ys with
      | nil => cases h
      | cons y ys =>
          have htype : x.dataType = y.dataType := Option.some.inj h
          simp only [ruling, TensorInfo.isQuantised, htype]
          rfl

lemma Availability.ruling_congr {availability : Availability}
    (h : xs.head?.map TensorInfo.dataType = ys.head?.map TensorInfo.dataType) :
    availability.ruling layer xs = availability.ruling layer ys := by
  simp only [ruling, Layer.ruling_congr h]

/-- Two queries are answered alike when they are ruled on alike and judged alike. -/
lemma Backend.support_congr {b : Backend} {layer' : Layer} (hcompute : b.validator = .compute)
    (hruling : b.availability.ruling layer xs = b.availability.ruling layer' ys)
    (hjudge : judge layer xs = judge layer' ys) :
    (b.query layer xs).support = (b.query layer' ys).support := by
  have hvalidate : b.validator.validate layer xs = b.validator.validate layer' ys := by
    rw [hcompute]
    exact congrArg Judgement.status hjudge
  cases hys : b.availability.ruling layer' ys with
  | settled answer => rw [support_of_settled (hruling.trans hys), support_of_settled hys]
  | ask => simp only [query_of_ask (hruling.trans hys), query_of_ask hys, hvalidate]

/-- The kinds that are judged by the type of their first operand alone. -/
def LayerKind.judgedByType : List LayerKind :=
  [.constant, .input, .output, .reshape, .splitter, .merger, .floor]

/-- The answer for a kind that has rules for the type of its first operand. -/
def TypeRules.answer (rules : TypeRules) (kind : LayerKind) : Option DataType → Support
  | none => .error (.noInput kind)
  | some t => rules.check t

lemma Strategy.exists_rules_of_mem {kind : LayerKind} (h : kind ∈ LayerKind.judgedByType) :
    ∃ rules, Strategy.of kind = .dataType rules := by
  simp only [LayerKind.judgedByType, List.mem_cons, List.not_mem_nil, or_false] at h
  rcases h with rfl | rfl | rfl | rfl | rfl | rfl | rfl <;> exact ⟨_, rfl⟩

lemma Layer.ruling_of_dataType {rules : TypeRules} (h : Strategy.of layer.kind = .dataType rules)
    (operands : List TensorInfo) :
    layer.ruling operands =
      .settled (rules.answer layer.kind (operands.head?.map TensorInfo.dataType)) := by
  unfold ruling
  rw [h]
  cases operands with
  | nil => rfl
  | cons first rest => rfl

lemma Backend.support_of_judgedByType {b : Backend} {layer' : Layer}
    (hon : b.availability = .enabled) (hkind : layer.kind ∈ LayerKind.judgedByType)
    (hsame : layer'.kind = layer.kind)
    (h : xs.head?.map TensorInfo.dataType = ys.head?.map TensorInfo.dataType) :
    (b.query layer xs).support = (b.query layer' ys).support := by
  obtain ⟨rules, hrules⟩ := Strategy.exists_rules_of_mem hkind
  have hrules' : Strategy.of layer'.kind = .dataType rules := by rw [hsame, hrules]
  rw [support_of_ruling hon (Layer.ruling_of_dataType hrules xs),
    support_of_ruling hon (Layer.ruling_of_dataType hrules' ys), hsame, h]

end Ruling

/-! ## In the kernel library -/

namespace Kernel

/-- The operand without its quantisation. -/
def Operand.plain (x : Operand) : Operand := { x with quantization := {} }

lemma Operand.map_ofInfo_plain (operands : List TensorInfo) :
    (operands.map TensorInfo.plain).map ofInfo = (operands.map ofInfo).map plain := by
  rw [List.map_map, List.map_map]
  rfl

lemma Operand.plain_ofInfo_eq {x y : TensorInfo} (h : x.Alike y) :
    (ofInfo x).plain = (ofInfo y).plain :=
  congrArg ofInfo (TensorInfo.plain_eq_iff.2 h)

lemma checkSoftmax_plain {input output : Operand} {beta : Single}
    (h : input.dataType ≠ .quantisedAsymm8) :
    checkSoftmax input.plain output.plain beta = checkSoftmax input output beta := by
  have hplain : input.plain.dataType ≠ .quantisedAsymm8 := h
  -- the only condition on a quantisation has a premise that does not hold on either side
  simp only [checkSoftmax, h, hplain, false_imp_iff]
  rfl

/-- A softmax looks at the quantisation of its output, and only when its operands are quantised. -/
lemma checkSoftmax_congr {x x' y y' : Operand} {beta : Single} (hx : x.plain = x'.plain)
    (hy : y.plain = y'.plain)
    (hq : x.dataType = .quantisedAsymm8 → y.quantization = y'.quantization) :
    checkSoftmax x y beta = checkSoftmax x' y' beta := by
  by_cases htype : x.dataType = .quantisedAsymm8
  · have hsame : y = y' := by
      obtain ⟨dims, t, q⟩ := y
      obtain ⟨dims', t', q'⟩ := y'
      obtain ⟨rfl, rfl, -⟩ := Operand.mk.inj hy
      rw [show q = q' from hq htype]
    rw [hsame]
    -- the check never mentions the quantisation of the input
    calc checkSoftmax x y' beta = checkSoftmax x.plain y' beta := rfl
      _ = checkSoftmax x'.plain y' beta := by rw [hx]
      _ = checkSoftmax x' y' beta := rfl
  · have htype' : x'.dataType ≠ .quantisedAsymm8 := by
      rw [← (Operand.mk.inj hx).2.1]
      exact htype
    rw [← checkSoftmax_plain htype, hx, hy, checkSoftmax_plain htype']

end Kernel

open Kernel

section Judgements

variable {kind : LayerKind}

/-! A list of plain operands is judged as the list itself by a check that is blind to quantisation:
their number is the same, and so is what the check is shown. -/

lemma judgeTwo_plain {check : Operand → Operand → Judgement}
    (hcheck : ∀ x y, check x.plain y.plain = check x y) (tensors : List Operand) :
    judgeTwo kind (tensors.map .plain) check = judgeTwo kind tensors check := by
  rcases tensors with _ | ⟨x, _ | ⟨y, _ | ⟨z, rest⟩⟩⟩
  · rfl
  · rfl
  · exact hcheck x y
  · simp [judgeTwo]

lemma judgeThree_plain {check : Operand → Operand → Operand → Judgement}
    (hcheck : ∀ x y z, check x.plain y.plain z.plain = check x y z) (tensors : List Operand) :
    judgeThree kind (tensors.map .plain) check = judgeThree kind tensors check := by
  rcases tensors with _ | ⟨x, _ | ⟨y, _ | ⟨z, _ | ⟨t, rest⟩⟩⟩⟩
  · rfl
  · rfl
  · rfl
  · exact hcheck x y z
  · simp [judgeThree]

lemma judgeWeighted_plain {biasEnabled : Bool}
    {check : Operand → Operand → Option Operand → Operand → Judgement}
    (hcheck : ∀ input weights bias output,
      check input.plain weights.plain (bias.map Operand.plain) output.plain =
        check input weights bias output) (tensors : List Operand) :
    judgeWeighted kind (tensors.map .plain) biasEnabled check =
      judgeWeighted kind tensors biasEnabled check := by
  rcases tensors with _ | ⟨x, _ | ⟨y, _ | ⟨w, _ | ⟨b, _ | ⟨t, rest⟩⟩⟩⟩⟩
  · rfl
  · rfl
  · rfl
  · cases biasEnabled with
    | true => rfl
    | false => exact hcheck x w none y
  · cases biasEnabled with
    | true => exact hcheck x w (some b) y
    | false => exact hcheck x w none y
  · simp [judgeWeighted]

/-- Without their quantisation the operands of a layer are judged as they are, and objected to in
the same words, unless the layer is a softmax. -/
lemma judge_plain {layer : Layer} (hlayer : layer.kind ≠ .softmax) (operands : List TensorInfo) :
    judge layer (operands.map .plain) = judge layer operands := by
  -- a check that does not name the quantisation is the same check on plain operands
  cases layer with
  | softmax p => exact absurd rfl hlayer
  | activation p | l2Normalization | normalization p | permute p | pooling2d p =>
      simp only [judge, Operand.map_ofInfo_plain]
      exact judgeTwo_plain (fun _ _ => rfl) _
  | addition | multiplication =>
      simp only [judge, Operand.map_ofInfo_plain]
      exact judgeThree_plain (fun _ _ _ => rfl) _
  | convolution2d p | depthwiseConvolution2d p | fullyConnected p =>
      simp only [judge, Operand.map_ofInfo_plain]
      refine judgeWeighted_plain (fun input weights bias output => ?_) _
      cases bias with
      | none => rfl
      | some b => rfl
  | batchNormalization p =>
      simp only [judge, Operand.map_ofInfo_plain]
      rcases operands with
        _ | ⟨a, _ | ⟨b, _ | ⟨c, _ | ⟨d, _ | ⟨e, _ | ⟨f, _ | ⟨g, rest⟩⟩⟩⟩⟩⟩⟩
      · rfl
      · rfl
      · rfl
      · rfl
      · rfl
      · rfl
      · rfl
      · simp
  | _ => rfl

lemma judge_softmax_congr {p : Softmax} {xs ys : List TensorInfo}
    (h : List.Forall₂ TensorInfo.Alike xs ys)
    (hq : xs.head?.map TensorInfo.dataType = some .quantisedAsymm8 →
      xs[1]?.map TensorInfo.quantization = ys[1]?.map TensorInfo.quantization) :
    judge (.softmax p) xs = judge (.softmax p) ys := by
  rcases h with _ | ⟨hx, _ | ⟨hy, _ | ⟨hz, hrest⟩⟩⟩
  · rfl
  · rfl
  · refine congrArg Verdict.judgement (checkSoftmax_congr (Operand.plain_ofInfo_eq hx)
      (Operand.plain_ofInfo_eq hy) fun htype => ?_)
    exact Option.some.inj (hq (congrArg some htype))
  · simp [judge, judgeTwo, hrest.length_eq]

end Judgements

/-! ## Answers -/

/-- **What an answer depends on.**  For two lists of operands that agree in shapes and types, the
backend of this build gives one answer with one reason, whatever their quantisation, unless the
layer is a softmax; and two answers about a softmax differ only if it is quantised and the
quantisations of its output differ.  Two layers of one kind that is judged by type get one answer if
both have no operand or their first operands have one type. -/
theorem Backend.support_depends_only :
    (∀ (layer : Layer) (xs ys : List TensorInfo), layer.kind ≠ .softmax →
      List.Forall₂ TensorInfo.Alike xs ys →
      Backend.standard.supports layer xs = Backend.standard.supports layer ys) ∧
    (∀ (p : Softmax) (xs ys : List TensorInfo), List.Forall₂ TensorInfo.Alike xs ys →
      Backend.standard.supports (.softmax p) xs ≠ Backend.standard.supports (.softmax p) ys →
      xs.head?.map TensorInfo.dataType = some .quantisedAsymm8 ∧
        xs[1]?.map TensorInfo.quantization ≠ ys[1]?.map TensorInfo.quantization) ∧
    ∀ (layer layer' : Layer) (xs ys : List TensorInfo),
      layer.kind ∈ LayerKind.judgedByType → layer'.kind = layer.kind →
      xs.head?.map TensorInfo.dataType = ys.head?.map TensorInfo.dataType →
      Backend.standard.supports layer xs = Backend.standard.supports layer' ys := by
  have hhead : ∀ {xs ys : List TensorInfo}, List.Forall₂ TensorInfo.Alike xs ys →
      xs.head?.map TensorInfo.dataType = ys.head?.map TensorInfo.dataType := by
    rintro _ _ (_ | ⟨hx, -⟩)
    · rfl
    · exact congrArg some hx.2
  refine ⟨fun layer xs ys hlayer h => ?_, fun p xs ys h hne => ?_,
    fun layer layer' xs ys hkind hsame htype => ?_⟩
  · refine support_congr rfl (Availability.ruling_congr (hhead h)) ?_
    rw [← judge_plain hlayer xs, TensorInfo.map_plain_eq_iff.2 h, judge_plain hlayer ys]
  · by_contra hq
    refine hne (support_congr rfl (Availability.ruling_congr (hhead h)) ?_)
    exact judge_softmax_congr h fun htype => by_contra fun hout => hq ⟨htype, hout⟩
  · exact support_of_judgedByType rfl hkind hsame htype

/-- Clipping a quantised vector is answered alike with any scale.  A softmax of it is supported with
one quantisation of the output and not with another, and then these are what differs. -/
theorem Backend.support_depends_only_of_quantised_vector :
    let clip : Layer := .activation { function := .boundedReLu }
    let x : TensorInfo := ⟨⟨[4]⟩, .quantisedAsymm8, {}⟩
    let y : TensorInfo := ⟨⟨[4]⟩, .quantisedAsymm8, Kernel.softmaxQuantization⟩
    Backend.standard.supports clip [x, x] = Backend.standard.supports clip [y, x] ∧
      Backend.standard.supports (.softmax {}) [x, y] = .ok () ∧
      Backend.standard.supports (.softmax {}) [x, x] ≠ .ok () ∧
      ([x, y][1]?.map TensorInfo.quantization ≠ [x, x][1]?.map TensorInfo.quantization) ∧
      Backend.standard.supports (.merger {}) [x, y] =
        Backend.standard.supports (.merger { origins := [[1]] }) [⟨⟨[]⟩, .quantisedAsymm8, {}⟩] := by
  intro clip x y
  obtain ⟨hplain, hsoftmax, htype⟩ := Backend.support_depends_only
  have hxy : x.Alike y := ⟨rfl, rfl⟩
  have hxx : x.Alike x := ⟨rfl, rfl⟩
  have hok : Backend.standard.supports (.softmax {}) [x, y] = .ok () := by decide
  have hno : Backend.standard.supports (.softmax {}) [x, x] ≠ .ok () := by decide
  have hdiffer : Backend.standard.supports (.softmax {}) [x, y] ≠
      Backend.standard.supports (.softmax {}) [x, x] := by
    rw [hok]
    exact hno.symm
  refine ⟨hplain clip _ _ (by decide) (.cons hxy (.cons hxx .nil)), hok, hno,
    (hsoftmax {} [x, y] [x, x] (.cons hxx (.cons ⟨rfl, rfl⟩ .nil)) hdiffer).2, ?_⟩
  exact htype (.merger {}) (.merger { origins := [[1]] }) _ _ (by decide) rfl rfl

end NeuralBackend
