import NeuralBackend.Proofs.Kernel.Overrun
import NeuralBackend.Proofs.Support.Bias

/-!
# How many operands are read

The kernel library reads operands at fixed places, and relies on the number of operands having been
checked.  Each layer gives that number on its own, away from the places, and the bias is looked for
on its own again.  `judgeByPlace` is the judgement in this form: a place past the end of the
operands is an overrun there, and so is an entry of a permutation vector that is no index of the
vector.

**`operands_read_within_arity`**: there is no overrun, whatever the layer and however many operands
it is given, and the judgement is that of `judge`.  What is accepted has as many operands as its
kind takes, and is of a kind with a routine; everything else is refused, and the number of operands
alone decides in which words (`Layer.countObjection?`).
-/

namespace NeuralBackend

open Kernel Access

/-! ## Numbers of operands -/

/-- The least and the greatest number of operands of a kind of layer, if it has a routine. -/
def LayerKind.arity? : LayerKind → Option (Nat × Nat)
  | .activation | .l2Normalization | .normalization | .permute | .pooling2d | .softmax =>
      some (2, 2)
  | .addition | .multiplication => some (3, 3)
  | .batchNormalization => some (6, 6)
  | .convolution2d | .depthwiseConvolution2d | .fullyConnected => some (3, 4)
  | _ => none

/-- The layer takes `count` operands: as many as its kind, and a bias among them where it is
enabled. -/
def Layer.Takes (layer : Layer) (count : Nat) : Prop :=
  ∃ least most, layer.kind.arity? = some (least, most) ∧ least ≤ count ∧ count ≤ most ∧
    (layer.biasEnabled = true → count = 4)

/-- What there is to object to a number of operands. -/
def Layer.countObjection? (layer : Layer) (count : Nat) : Option Objection :=
  match layer.kind.arity? with
  | none => some (.noRoutine layer.kind)
  | some (least, most) =>
      if count < least ∨ most < count then some (.operandCount layer.kind least most count)
      else if layer.biasEnabled = true ∧ count < 4 then some (.missingBias layer.kind)
      else none

/-- The kinds with a routine are those that the library is asked about. -/
lemma LayerKind.isSome_arity? (kind : LayerKind) :
    kind.arity?.isSome = (Strategy.of kind).usesKernelValidation := by
  cases kind <;> rfl

lemma Layer.kind_mem_weighted {layer : Layer} (h : layer.biasEnabled = true) :
    layer.kind ∈ LayerKind.weighted := by
  cases layer with
  | convolution2d | depthwiseConvolution2d | fullyConnected => simp [kind, LayerKind.weighted]
  | _ => cases h

lemma Layer.arity?_of_biasEnabled {layer : Layer} (h : layer.biasEnabled = true) :
    layer.kind.arity? = some (3, 4) := by
  cases layer with
  | convolution2d | depthwiseConvolution2d | fullyConnected => rfl
  | _ => cases h

lemma Layer.Takes.usesKernelValidation {layer : Layer} {count : Nat} (h : layer.Takes count) :
    (Strategy.of layer.kind).usesKernelValidation = true := by
  obtain ⟨least, most, harity, -⟩ := h
  rw [← LayerKind.isSome_arity?, harity]
  rfl

/-- There is nothing to object to the numbers of operands that the layer takes. -/
lemma Layer.countObjection?_eq_none_iff {layer : Layer} {count : Nat} :
    layer.countObjection? count = none ↔ layer.Takes count := by
  rw [countObjection?, Takes]
  cases harity : layer.kind.arity? with
  | none => simp
  | some range =>
      obtain ⟨least, most⟩ := range
      have hmost : layer.biasEnabled = true → most = 4 := fun hbias => by
        cases harity.symm.trans (arity?_of_biasEnabled hbias)
        rfl
      simp only [Option.some.injEq, Prod.mk.injEq]
      split_ifs with hcount hbias
      · refine iff_of_false (fun h => by cases h) ?_
        rintro ⟨_, _, ⟨rfl, rfl⟩, hleast, hmost, -⟩
        omega
      · refine iff_of_false (fun h => by cases h) ?_
        rintro ⟨_, _, -, -, -, hfour⟩
        have hexact : count = 4 := hfour hbias.1
        omega
      · refine iff_of_true rfl ⟨least, most, ⟨rfl, rfl⟩, by omega, by omega, fun henabled => ?_⟩
        have hfour : most = 4 := hmost henabled
        have henough : ¬count < 4 := fun hlt => hbias ⟨henabled, hlt⟩
        omega

/-! ## Judgements place by place -/

section Judgements

variable {kind : LayerKind}

/-- The number of operands is one of those allowed. -/
def requireArity (kind : LayerKind) (operands : List Operand) (least most : Nat) : Judgement :=
  if least ≤ operands.length ∧ operands.length ≤ most then .ok ()
  else .error (.operandCount kind least most operands.length)

/-- The bias, which is looked for where it is enabled. -/
def findBias (kind : LayerKind) (operands : List Operand) (biasEnabled : Bool) :
    Except Objection (Option Operand) :=
  if biasEnabled then
    match operands[3]? with
    | some bias => .ok (some bias)
    | none => .error (.missingBias kind)
  else .ok none

/-- The judgement of a check on two operands, read at their places. -/
def judgeTwoByPlace (kind : LayerKind) (operands : List Operand)
    (check : Operand → Operand → Access Objection Unit) : Access Objection Unit := do
  decided (requireArity kind operands 2 2)
  let x ← read operands 0
  let y ← read operands 1
  check x y

/-- The judgement of a check on three operands, read at their places. -/
def judgeThreeByPlace (kind : LayerKind) (operands : List Operand)
    (check : Operand → Operand → Operand → Judgement) : Access Objection Unit := do
  decided (requireArity kind operands 3 3)
  let x ← read operands 0
  let y ← read operands 1
  let z ← read operands 2
  decided (check x y z)

/-- The judgement of a check on input, output and weights, read at their places, and on the bias
that is found. -/
def judgeWeightedByPlace (kind : LayerKind) (operands : List Operand) (biasEnabled : Bool)
    (check : Operand → Operand → Option Operand → Operand → Judgement) :
    Access Objection Unit := do
  decided (requireArity kind operands 3 4)
  let bias ← decided (findBias kind operands biasEnabled)
  let input ← read operands 0
  let output ← read operands 1
  let weights ← read operands 2
  decided (check input weights bias output)

/-- The judgement on a layer with operands, read at their places. -/
def judgeByPlace (layer : Layer) (operands : List TensorInfo) : Access Objection Unit :=
  let tensors := operands.map Operand.ofInfo
  match layer with
  | .activation p =>
      judgeTwoByPlace .activation tensors fun x y => decided (judgeActivation p x y)
  | .addition =>
      judgeThreeByPlace .addition tensors fun x y z => (checkAddition x y z).judgement
  | .multiplication =>
      judgeThreeByPlace .multiplication tensors fun x y z => (checkMultiplication x y z).judgement
  | .batchNormalization p => do
      decided (requireArity .batchNormalization tensors 6 6)
      let input ← read tensors 0
      let output ← read tensors 1
      let mean ← read tensors 2
      let variance ← read tensors 3
      let beta ← read tensors 4
      let gamma ← read tensors 5
      decided (checkBatchNormalization input output mean variance beta gamma p.eps).judgement
  | .convolution2d p =>
      judgeWeightedByPlace .convolution2d tensors p.biasEnabled fun input weights bias output =>
        (checkConvolution input weights bias output p.window).judgement
  | .depthwiseConvolution2d p =>
      judgeWeightedByPlace .depthwiseConvolution2d tensors p.biasEnabled
        fun input weights bias output =>
          (checkDepthwiseConvolution input weights bias output p.window).judgement
  | .fullyConnected p =>
      judgeWeightedByPlace .fullyConnected tensors p.biasEnabled fun input weights bias output =>
        (checkFullyConnected input weights bias output p.transposeWeights).judgement
  | .l2Normalization =>
      judgeTwoByPlace .l2Normalization tensors fun x y =>
        decided (checkL2Normalization x y).judgement
  | .normalization p =>
      judgeTwoByPlace .normalization tensors fun x y =>
        decided (checkNormalization x y (.ofLayer p)).judgement
  | .permute p =>
      judgeTwoByPlace .permute tensors fun x y =>
        (checkPermuteByPlace x y (.ofLayer p)).adapt .refused
  | .pooling2d p =>
      judgeTwoByPlace .pooling2d tensors fun x y =>
        decided (checkPooling x y (.ofLayer p)).judgement
  | .softmax p =>
      judgeTwoByPlace .softmax tensors fun x y => decided (checkSoftmax x y p.beta).judgement
  | layer => decided (.error (.noRoutine layer.kind))

/-- Another number of operands is objected to before any of them is read. -/
lemma requireArity_bind {operands : List Operand} {least most : Nat}
    {rest : Unit → Access Objection Unit}
    (h : ¬(least ≤ operands.length ∧ operands.length ≤ most)) :
    decided (requireArity kind operands least most) >>= rest =
      decided (.error (.operandCount kind least most operands.length)) := by
  rw [requireArity, if_neg h]
  rfl

lemma judgeTwoByPlace_eq (operands : List Operand) (check : Operand → Operand → Judgement) :
    judgeTwoByPlace kind operands (fun x y => decided (check x y)) =
      decided (judgeTwo kind operands check) := by
  rcases operands with _ | ⟨x, _ | ⟨y, _ | ⟨z, rest⟩⟩⟩
  · rfl
  · rfl
  · rfl
  · exact requireArity_bind (by simp)

lemma judgeThreeByPlace_eq (operands : List Operand)
    (check : Operand → Operand → Operand → Judgement) :
    judgeThreeByPlace kind operands check = decided (judgeThree kind operands check) := by
  rcases operands with _ | ⟨x, _ | ⟨y, _ | ⟨z, _ | ⟨_, rest⟩⟩⟩⟩
  · rfl
  · rfl
  · rfl
  · rfl
  · exact requireArity_bind (by simp)

lemma judgeWeightedByPlace_eq (operands : List Operand) (biasEnabled : Bool)
    (check : Operand → Operand → Option Operand → Operand → Judgement) :
    judgeWeightedByPlace kind operands biasEnabled check =
      decided (judgeWeighted kind operands biasEnabled check) := by
  rcases operands with _ | ⟨x, _ | ⟨y, _ | ⟨z, _ | ⟨b, _ | ⟨_, rest⟩⟩⟩⟩⟩
  · rfl
  · rfl
  · rfl
  · cases biasEnabled <;> rfl
  · cases biasEnabled <;> rfl
  · exact requireArity_bind (by simp)

/-- Reading at places never overruns. -/
lemma judgeByPlace_eq (layer : Layer) (operands : List TensorInfo) :
    judgeByPlace layer operands = decided (judge layer operands) := by
  cases layer with
  | activation p => exact judgeTwoByPlace_eq _ _
  | l2Normalization => exact judgeTwoByPlace_eq _ _
  | normalization p => exact judgeTwoByPlace_eq _ _
  | pooling2d p => exact judgeTwoByPlace_eq _ _
  | softmax p => exact judgeTwoByPlace_eq _ _
  | addition => exact judgeThreeByPlace_eq _ _
  | multiplication => exact judgeThreeByPlace_eq _ _
  | convolution2d p => exact judgeWeightedByPlace_eq _ _ _
  | depthwiseConvolution2d p => exact judgeWeightedByPlace_eq _ _ _
  | fullyConnected p => exact judgeWeightedByPlace_eq _ _ _
  | permute p =>
      rw [judgeByPlace]
      simp only [checkPermuteByPlace_eq, adapt_decided]
      exact judgeTwoByPlace_eq _ _
  | batchNormalization p =>
      rcases operands with
        _ | ⟨a, _ | ⟨b, _ | ⟨c, _ | ⟨d, _ | ⟨e, _ | ⟨f, _ | ⟨_, rest⟩⟩⟩⟩⟩⟩⟩
      · rfl
      · rfl
      · rfl
      · rfl
      · rfl
      · rfl
      · rfl
      · exact requireArity_bind (by simp)
  | _ => rfl

/-- Where there is a routine, the number of operands is looked at before anything else. -/
lemma exists_judgeByPlace_eq {layer : Layer} {least most : Nat}
    (harity : layer.kind.arity? = some (least, most)) (operands : List TensorInfo) :
    ∃ rest, judgeByPlace layer operands =
      decided (requireArity layer.kind (operands.map .ofInfo) least most) >>= rest := by
  cases layer <;> cases harity <;> exact ⟨_, rfl⟩

end Judgements

/-! ## Objections to the number of operands -/

section Objections

variable {layer : Layer} {operands : List TensorInfo}

lemma judge_of_arity?_eq_none (h : layer.kind.arity? = none) :
    judge layer operands = .error (.noRoutine layer.kind) := by
  cases layer with
  | activation | l2Normalization | normalization | permute | pooling2d | softmax => cases h
  | addition | multiplication | batchNormalization => cases h
  | convolution2d | depthwiseConvolution2d | fullyConnected => cases h
  | _ => rfl

lemma judge_of_operandCount {least most : Nat} (harity : layer.kind.arity? = some (least, most))
    (hcount : ¬(least ≤ operands.length ∧ operands.length ≤ most)) :
    judge layer operands = .error (.operandCount layer.kind least most operands.length) := by
  have hlength : (operands.map Operand.ofInfo).length = operands.length := List.length_map _
  obtain ⟨rest, hplaces⟩ := exists_judgeByPlace_eq harity operands
  rw [judgeByPlace_eq, requireArity_bind (by rwa [hlength]), hlength] at hplaces
  exact decided_inj.1 hplaces

/-- What is objected to the number of operands is what the judgement objects to. -/
lemma judge_of_countObjection {objection : Objection}
    (h : layer.countObjection? operands.length = some objection) :
    judge layer operands = .error objection := by
  rw [Layer.countObjection?] at h
  cases harity : layer.kind.arity? with
  | none =>
      rw [harity] at h
      cases h
      exact judge_of_arity?_eq_none harity
  | some range =>
      obtain ⟨least, most⟩ := range
      simp only [harity] at h
      split_ifs at h with hcount hbias
      · cases h
        exact judge_of_operandCount harity (by omega)
      · cases h
        obtain ⟨henabled, hfew⟩ := hbias
        cases harity.symm.trans (Layer.arity?_of_biasEnabled henabled)
        obtain ⟨input, output, weights, rfl⟩ := List.length_eq_three.1
          (show operands.length = 3 by omega)
        exact judge_of_missing_bias (Layer.kind_mem_weighted henabled) henabled

end Objections

/-- **Operands are read within their number.**  Read place by place, the operands of no layer are
overrun, however many there are, and the judgement is that of `judge`; the check of a permutation
uses none but indices of the vector as places of the output, for any vector.  The library is asked
about twelve kinds, and these are the kinds with a routine.  The validator accepts a layer only if
it is of one of them and takes that many operands: two for an activation, a permutation, a pooling,
a softmax and a normalisation by the Euclidean norm or by local response, three for an addition and
a multiplication, six for a batch normalisation, and three or four for a layer with weights, four if
its bias is enabled.  For every other number of operands the validator answers with an error, whose
text depends on the layer and the number alone. -/
theorem operands_read_within_arity :
    (∀ layer operands, (judgeByPlace layer operands).run = some (judge layer operands)) ∧
    (∀ input output p, (checkPermuteByPlace input output p).run =
      some (checkPermute input output p)) ∧
    (Strategy.table.filter fun entry => entry.2.usesKernelValidation).length = 12 ∧
    (∀ kind : LayerKind, (Strategy.of kind).usesKernelValidation = kind.arity?.isSome) ∧
    ∀ (layer : Layer) (operands : List TensorInfo),
      let status := Validator.compute.validate layer operands
      (status.isOk = true →
        (Strategy.of layer.kind).usesKernelValidation = true ∧ layer.Takes operands.length) ∧
      (¬layer.Takes operands.length → ∃ objection,
        layer.countObjection? operands.length = some objection ∧
          status = .runtimeError objection.text) := by
  refine ⟨judgeByPlace_eq, checkPermuteByPlace_eq, rfl,
    fun kind => kind.isSome_arity?.symm, fun layer operands => ?_⟩
  intro status
  have hrefused : ¬layer.Takes operands.length → ∃ objection,
      layer.countObjection? operands.length = some objection ∧
        status = .runtimeError objection.text := by
    rw [← Layer.countObjection?_eq_none_iff, ← ne_eq, Option.ne_none_iff_exists']
    rintro ⟨objection, hobjection⟩
    refine ⟨objection, hobjection, ?_⟩
    change (judge layer operands).status = _
    rw [judge_of_countObjection hobjection]
    rfl
  refine ⟨fun hok => ?_, hrefused⟩
  have htakes : layer.Takes operands.length := by
    by_contra hnot
    obtain ⟨objection, -, hstatus⟩ := hrefused hnot
    rw [hstatus] at hok
    cases hok
  exact ⟨htakes.usesKernelValidation, htakes⟩

/-- A convolution with its bias enabled and three operands is refused for want of a bias, and a
vector with an entry that is no index is refused as no permutation.  Both refusals come in time:
there is no operand to be read, and no place of the output to go to. -/
theorem operands_read_within_arity_of_missing :
    let layer : Layer := .convolution2d { biasEnabled := true }
    let info : TensorInfo := ⟨⟨[1, 2]⟩, .float32, {}⟩
    let vector : PermutationVector := ⟨[2, 0]⟩
    Validator.compute.validate layer [info, info, info] =
        .runtimeError "Convolution2d: bias enabled but no bias tensor given" ∧
      (read [info, info, info] 3 : Access Objection TensorInfo).run = none ∧
      (checkPermuteByPlace (.ofInfo info) (.ofInfo info) vector).run =
        some (.error ⟨.permute, .permutation vector 2⟩) ∧
      (vector.destination 0).run = none := by
  intro layer info vector
  obtain ⟨-, hpermute, -, -, hlayers⟩ := operands_read_within_arity
  have hnot : ¬layer.Takes [info, info, info].length := by
    rw [← Layer.countObjection?_eq_none_iff]
    decide
  obtain ⟨objection, hobjection, hstatus⟩ := (hlayers layer [info, info, info]).2 hnot
  cases hobjection
  have hinvalid : ¬vector.IsValid := fun h => Nat.lt_irrefl 2 (h.1 2 List.mem_cons_self)
  have hrefused : checkPermute (.ofInfo info) (.ofInfo info) vector =
      .error ⟨.permute, .permutation vector 2⟩ := by
    refine bind_error_iff.2 (.inr ⟨(), Routine.requireSameType_ok_iff.2 rfl, ?_⟩)
    exact bind_error_iff.2 (.inl (Routine.require_error_iff.2 ⟨fun h => hinvalid h.1, rfl⟩))
  exact ⟨hstatus, rfl, (hpermute _ _ vector).trans (congrArg some hrefused), rfl⟩

end NeuralBackend
