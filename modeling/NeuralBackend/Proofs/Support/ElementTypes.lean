import NeuralBackend.Proofs.Kernel.Check.Elementwise
import NeuralBackend.Proofs.Kernel.Check.Rearranged
import NeuralBackend.Proofs.Kernel.Check.Windowed
import NeuralBackend.Proofs.Support.Precheck

/-!
# Element types of supported layers

The operands of a layer that is supported have one element type.  The bias is the exception, twice
over: where it is not enabled it is not looked at and can have any type, and the bias of a quantised
convolution is counted in 32 bits.  `Layer.takes`, `Layer.reads` and `Layer.operandType` are the
rules for the first operand, for what is looked at, and for the type at each place;
`Layer.WellTyped` puts the three together.

**`supported_wellTyped`** says that nothing is supported but what is well typed.  The kernel library
answers for that, layer by layer (`judge_wellTyped`): a layer without weights compares every operand
with the first (`judgeTwo_wellTyped`, `judgeThree_wellTyped`), and a layer with weights does so
before it turns to the bias (`judgeWeighted_wellTyped`).
-/

namespace NeuralBackend

open Kernel

/-! ## Typing rules -/

/-- The types that the first operand of a layer can have, for the kinds that have kernels. -/
def Layer.takes (layer : Layer) : DataType → Bool
  | .float16 | .float32 => true
  | .quantisedAsymm8 =>
      match layer with
      | .permute _ | .softmax _ | .convolution2d _ | .depthwiseConvolution2d _ => true
      | .pooling2d p => p.algorithm != .l2
      | .activation p => p.function == .boundedReLu
      | _ => false
  | .signed32 =>
      match layer with
      | .permute _ => true
      | _ => false

/-- The places of the operands that are looked at: all but that of a bias which is not enabled. -/
def Layer.reads (layer : Layer) (place : Nat) : Bool :=
  match layer with
  | .convolution2d p | .depthwiseConvolution2d p => place != 3 || p.biasEnabled
  | .fullyConnected p => place != 3 || p.biasEnabled
  | _ => true

/-- The type of the operand at a place, when the first operand is of type `t`. -/
def Layer.operandType (layer : Layer) (t : DataType) (place : Nat) : DataType :=
  match layer with
  | .convolution2d _ | .depthwiseConvolution2d _ =>
      if place = 3 ∧ t = .quantisedAsymm8 then .signed32 else t
  | _ => t

/-- The first operand has a type that the layer takes, and whatever else is looked at has the type
that goes with it. -/
def Layer.WellTyped (layer : Layer) (operands : List TensorInfo) : Prop :=
  ∃ first, operands.head? = some first ∧ layer.takes first.dataType = true ∧
    ∀ place x, operands[place]? = some x → layer.reads place = true →
      x.dataType = layer.operandType first.dataType place

namespace Layer

variable {layer : Layer} {t : DataType}

lemma takes_of_mem_floatTypes (h : t ∈ floatTypes) : layer.takes t = true := by
  rcases mem_floatTypes_iff.1 h with rfl | rfl
  · rfl
  · rfl

lemma takes_of_mem_floatOrQuantisedTypes (h : t ∈ floatOrQuantisedTypes)
    (hquantised : t = .quantisedAsymm8 → layer.takes .quantisedAsymm8 = true) :
    layer.takes t = true := by
  rcases mem_floatOrQuantisedTypes_iff.1 h with rfl | rfl | rfl
  · rfl
  · rfl
  · exact hquantised rfl

/-- Only the bias can have a type of its own. -/
lemma operandType_of_ne {place : Nat} (h : place ≠ 3) : layer.operandType t place = t := by
  cases layer <;> simp [operandType, h]

lemma wellTyped_of_forall {first : TensorInfo} {rest : List TensorInfo}
    (hplain : ∀ place, layer.operandType first.dataType place = first.dataType)
    (htakes : layer.takes first.dataType = true)
    (hrest : ∀ x ∈ rest, first.dataType = x.dataType) : layer.WellTyped (first :: rest) := by
  refine ⟨first, rfl, htakes, fun place x hx _ => ?_⟩
  rw [hplain]
  rcases List.mem_cons.1 (List.mem_of_getElem? hx) with rfl | hmem
  · rfl
  · exact (hrest x hmem).symm

lemma wellTyped_of_weights {input output weights : TensorInfo} {biases : Option TensorInfo}
    (htakes : layer.takes input.dataType = true) (houtput : input.dataType = output.dataType)
    (hweights : input.dataType = weights.dataType)
    (hbias : layer.reads 3 = true → ∀ b ∈ biases, b.dataType = layer.operandType input.dataType 3) :
    layer.WellTyped ([input, output, weights] ++ biases.toList) := by
  refine ⟨input, rfl, htakes, fun place x hx hreads => ?_⟩
  match place with
  | 0 =>
      cases hx
      exact (operandType_of_ne (by decide)).symm
  | 1 =>
      cases hx
      exact houtput.symm.trans (operandType_of_ne (by decide)).symm
  | 2 =>
      cases hx
      exact hweights.symm.trans (operandType_of_ne (by decide)).symm
  | 3 =>
      have hgiven : biases.toList[0]? = some x := hx
      exact hbias hreads x (Option.mem_toList.1 (List.mem_of_getElem? hgiven))
  | n + 4 =>
      cases biases with
      | none => cases hx
      | some b => cases hx

end Layer

/-! ## Judgements -/

section Judgements

variable {layer : Layer} {kind : LayerKind} {operands : List TensorInfo}

lemma judgeTwo_wellTyped {check : Operand → Operand → Judgement}
    (h : judgeTwo kind (operands.map .ofInfo) check = .ok ())
    (hplain : ∀ t place, layer.operandType t place = t)
    (hcheck : ∀ x y, check x y = .ok () →
      layer.takes x.dataType = true ∧ x.dataType = y.dataType) : layer.WellTyped operands := by
  rw [judgeTwo_ok_iff] at h
  obtain ⟨x, y, rfl, h⟩ := h
  obtain ⟨htakes, hsame⟩ := hcheck _ _ h
  exact Layer.wellTyped_of_forall (hplain _) htakes (List.forall_mem_singleton.2 hsame)

lemma judgeThree_wellTyped {check : Operand → Operand → Operand → Judgement}
    (h : judgeThree kind (operands.map .ofInfo) check = .ok ())
    (hplain : ∀ t place, layer.operandType t place = t)
    (hcheck : ∀ x y z, check x y z = .ok () →
      layer.takes x.dataType = true ∧ x.dataType = y.dataType ∧ x.dataType = z.dataType) :
    layer.WellTyped operands := by
  rw [judgeThree_ok_iff] at h
  obtain ⟨x, y, z, rfl, h⟩ := h
  obtain ⟨htakes, hsecond, hthird⟩ := hcheck _ _ _ h
  refine Layer.wellTyped_of_forall (hplain _) htakes ?_
  exact List.forall_mem_cons.2 ⟨hsecond, List.forall_mem_singleton.2 hthird⟩

/-- The bias is looked at where the check is shown one. -/
lemma judgeWeighted_wellTyped {biasEnabled : Bool}
    {check : Operand → Operand → Option Operand → Operand → Judgement}
    (h : judgeWeighted kind (operands.map .ofInfo) biasEnabled check = .ok ())
    (hreads : layer.reads 3 = biasEnabled)
    (hcheck : ∀ x w biases y, check x w biases y = .ok () →
      layer.takes x.dataType = true ∧ x.dataType = w.dataType ∧ x.dataType = y.dataType ∧
        ∀ b ∈ biases, b.dataType = layer.operandType x.dataType 3) :
    layer.WellTyped operands := by
  rw [judgeWeighted_ok_iff] at h
  obtain ⟨input, output, weights, biases, rfl, -, h⟩ := h
  obtain ⟨htakes, hweights, houtput, hbias⟩ := hcheck _ _ _ _ h
  refine Layer.wellTyped_of_weights htakes houtput hweights fun henabled b hb => ?_
  exact hbias (.ofInfo b) (ofInfo_mem_enabledBias (hreads.symm.trans henabled) hb)

lemma judge_activation_wellTyped {p : Activation} (h : judge (.activation p) operands = .ok ()) :
    (Layer.activation p).WellTyped operands := by
  -- no other activation of a graph runs on a kernel that clips to a range
  have hclips : ActivationKernel.ofLayer p.function = .boundedRelu ∨
      ActivationKernel.ofLayer p.function = .luBoundedRelu → p.function = .boundedReLu := by
    cases p.function <;> simp [ActivationKernel.ofLayer]
  refine judgeTwo_wellTyped h (fun _ _ => rfl) fun x y hcheck => ?_
  obtain ⟨htype, hquantised, hsame, -⟩ :=
    checkActivation_ok_iff.1 (judgeActivation_ok_iff.1 hcheck).2
  refine ⟨Layer.takes_of_mem_floatOrQuantisedTypes htype fun hq => ?_, hsame⟩
  exact beq_iff_eq.2 (hclips (hquantised hq))

lemma judge_pooling2d_wellTyped {p : Pooling} (h : judge (.pooling2d p) operands = .ok ()) :
    (Layer.pooling2d p).WellTyped operands := by
  refine judgeTwo_wellTyped h (fun _ _ => rfl) fun x y hcheck => ?_
  obtain ⟨htype, hsame, hquantised, -⟩ :=
    checkPooling_ok_iff.1 (Verdict.judgement_eq_ok_iff.1 hcheck)
  refine ⟨Layer.takes_of_mem_floatOrQuantisedTypes htype fun hq => ?_, hsame⟩
  exact bne_iff_ne.2 fun hl2 => hquantised ⟨hq, PoolingType.ofLayer_eq_l2_iff.2 hl2⟩

lemma judge_batchNormalization_wellTyped {p : BatchNormalization}
    (h : judge (.batchNormalization p) operands = .ok ()) :
    (Layer.batchNormalization p).WellTyped operands := by
  rw [judge_batchNormalization_ok_iff] at h
  obtain ⟨input, output, mean, variance, beta, gamma, rfl, h⟩ := h
  obtain ⟨htype, houtput, -, -, hparameters⟩ := checkBatchNormalization_ok_iff.1 h
  refine Layer.wellTyped_of_forall (fun _ => rfl) (Layer.takes_of_mem_floatTypes htype) ?_
  refine List.forall_mem_cons.2 ⟨houtput, fun x hx => ?_⟩
  exact (hparameters (.ofInfo x) (List.mem_map_of_mem hx)).1

lemma checkArithmetic_types {routine : Routine} {x y z : Operand}
    (h : checkArithmetic routine x y z = .ok ()) :
    layer.takes x.dataType = true ∧ x.dataType = y.dataType ∧ x.dataType = z.dataType := by
  obtain ⟨htype, hsecond, houtput, -⟩ := checkArithmetic_ok_iff.1 h
  exact ⟨Layer.takes_of_mem_floatTypes htype, hsecond, houtput⟩

/-- What the library runs is well typed. -/
lemma judge_wellTyped (h : judge layer operands = .ok ()) : layer.WellTyped operands := by
  cases layer with
  | activation p => exact judge_activation_wellTyped h
  | pooling2d p => exact judge_pooling2d_wellTyped h
  | batchNormalization p => exact judge_batchNormalization_wellTyped h
  | addition =>
      refine judgeThree_wellTyped h (fun _ _ => rfl) fun x y z hcheck => ?_
      exact checkArithmetic_types (Verdict.judgement_eq_ok_iff.1 hcheck)
  | multiplication =>
      refine judgeThree_wellTyped h (fun _ _ => rfl) fun x y z hcheck => ?_
      exact checkArithmetic_types (Verdict.judgement_eq_ok_iff.1 hcheck)
  | l2Normalization =>
      refine judgeTwo_wellTyped h (fun _ _ => rfl) fun x y hcheck => ?_
      obtain ⟨htype, hsame, -⟩ :=
        checkL2Normalization_ok_iff.1 (Verdict.judgement_eq_ok_iff.1 hcheck)
      exact ⟨Layer.takes_of_mem_floatTypes htype, hsame⟩
  | normalization p =>
      refine judgeTwo_wellTyped h (fun _ _ => rfl) fun x y hcheck => ?_
      obtain ⟨htype, hsame, -⟩ :=
        checkNormalization_ok_iff.1 (Verdict.judgement_eq_ok_iff.1 hcheck)
      exact ⟨Layer.takes_of_mem_floatTypes htype, hsame⟩
  | softmax p =>
      refine judgeTwo_wellTyped h (fun _ _ => rfl) fun x y hcheck => ?_
      obtain ⟨htype, hsame, -⟩ := checkSoftmax_ok_iff.1 (Verdict.judgement_eq_ok_iff.1 hcheck)
      exact ⟨Layer.takes_of_mem_floatOrQuantisedTypes htype fun _ => rfl, hsame⟩
  | permute p =>
      refine judgeTwo_wellTyped h (fun _ _ => rfl) fun x y hcheck => ⟨?_, ?_⟩
      · cases x.dataType <;> rfl
      · exact (checkPermute_ok_iff.1 (Verdict.judgement_eq_ok_iff.1 hcheck)).1
  | convolution2d p =>
      rw [judge] at h
      refine judgeWeighted_wellTyped h rfl fun x w biases y hcheck => ?_
      obtain ⟨htype, hweights, houtput, -, -, -, hfits, -⟩ :=
        checkConvolution_ok_iff.1 (Verdict.judgement_eq_ok_iff.1 hcheck)
      refine ⟨Layer.takes_of_mem_floatOrQuantisedTypes htype fun _ => rfl, hweights, houtput,
        fun b hb => (hfits b hb).1.trans ?_⟩
      cases x.dataType <;> rfl
  | depthwiseConvolution2d p =>
      rw [judge] at h
      refine judgeWeighted_wellTyped h rfl fun x w biases y hcheck => ?_
      obtain ⟨htype, hweights, houtput, -, -, -, channels, -, hfits, -⟩ :=
        checkDepthwiseConvolution_ok_iff.1 (Verdict.judgement_eq_ok_iff.1 hcheck)
      refine ⟨Layer.takes_of_mem_floatOrQuantisedTypes htype fun _ => rfl, hweights, houtput,
        fun b hb => (hfits b hb).1.trans ?_⟩
      cases x.dataType <;> rfl
  | fullyConnected p =>
      rw [judge] at h
      refine judgeWeighted_wellTyped h rfl fun x w biases y hcheck => ?_
      obtain ⟨htype, hweights, houtput, -, -, hbias, -⟩ :=
        checkFullyConnected_ok_iff.1 (Verdict.judgement_eq_ok_iff.1 hcheck)
      exact ⟨Layer.takes_of_mem_floatTypes htype, hweights, houtput,
        fun b hb => (hbias b hb).1.symm⟩
  | _ => cases h

end Judgements

/-- **Supported layers are well typed.**  If the backend of this build supports a layer of a kind
that the kernel library validates, there is a first operand, of a type that the layer takes, and
every operand that is looked at has the type that goes with it: the same one, but for the 32-bit
bias of a quantised convolution. -/
theorem supported_wellTyped {layer : Layer} {operands : List TensorInfo}
    (hkernel : (Strategy.of layer.kind).usesKernelValidation = true)
    (h : (Backend.standard.query layer operands).support = .ok ()) : layer.WellTyped operands :=
  judge_wellTyped (Backend.judge_of_support (b := Backend.standard) rfl rfl hkernel h)

/-- The bias of a quantised convolution is counted in 32 bits, and a quantised one does not go with
it. -/
theorem supported_wellTyped_of_quantised_convolution :
    let p : Convolution := { strideX := 1, strideY := 1, biasEnabled := true }
    let x : TensorInfo := ⟨⟨[1, 1, 1, 1]⟩, .quantisedAsymm8, {}⟩
    let bias : TensorInfo := ⟨⟨[1]⟩, .signed32, {}⟩
    (Backend.standard.query (.convolution2d p) [x, x, x, bias]).support = .ok () ∧
      (Layer.convolution2d p).WellTyped [x, x, x, bias] ∧
      ¬(Layer.convolution2d p).WellTyped [x, x, x, x] := by
  intro p x bias
  have hsupported :
      (Backend.standard.query (.convolution2d p) [x, x, x, bias]).support = .ok () := by decide
  refine ⟨hsupported, supported_wellTyped rfl hsupported, ?_⟩
  rintro ⟨first, ⟨⟩, -, htypes⟩
  exact absurd (htypes 3 x rfl rfl) (by decide)

end NeuralBackend
