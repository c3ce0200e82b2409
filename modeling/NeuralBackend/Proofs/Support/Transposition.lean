import NeuralBackend.Proofs.Support.Dependence

/-!
# Transposed weights

The weights of a fully connected layer can be given as `[inputs, outputs]` or as
`[outputs, inputs]`, and a flag says which.  Reversing their dimensions and changing the flag is
therefore no change at all: **`transposition_duality`**, for weights of any rank and for operand
lists of any length, down to the words of a refusal.

**Why it holds.**  Up to the test of the rank the check looks only at the type and the rank of the
weights, which reversal keeps, and refuses all other weights there.  Two dimensions are from then on
read through the flag alone (`checkFullyConnected_reversed`).  The weights come third among the
operands of a query, and what is decided in front of the kernel library looks only at the first
(`Layer.ruling_reversed`).
-/

namespace NeuralBackend

/-- The description with its dimensions in the opposite order. -/
def TensorInfo.reversed (info : TensorInfo) : TensorInfo :=
  { info with shape := ⟨info.shape.dims.reverse⟩ }

/-- The layer that reads its weights the other way round. -/
def FullyConnected.flipped (p : FullyConnected) : FullyConnected :=
  { p with transposeWeights := !p.transposeWeights }

namespace Kernel

/-- The operand with its dimensions in the opposite order. -/
def Operand.reversed (x : Operand) : Operand := { x with dims := x.dims.reverse }

lemma Operand.rank_reversed (x : Operand) : x.reversed.rank = x.rank := List.length_reverse

lemma Operand.map_ofInfo_modify (operands : List TensorInfo) (i : Nat) :
    (operands.modify i .reversed).map ofInfo = (operands.map ofInfo).modify i .reversed := by
  induction operands generalizing i with
  | nil => simp
  | cons info operands ih =>
      cases i with
      | zero => rfl
      | succ i => simp [ih]

/-- The check of a fully connected layer reads reversed weights by the opposite flag as it reads the
weights themselves. -/
lemma checkFullyConnected_reversed {input weights output : Operand} {biases : Option Operand}
    {transposed : Bool} :
    checkFullyConnected input weights.reversed biases output (!transposed)
      = checkFullyConnected input weights biases output transposed := by
  unfold checkFullyConnected
  -- the two checks run through the same tests, until one of the rank is passed
  refine bind_congr_of_ok fun _ _ => ?_
  refine bind_congr_of_ok fun _ _ => ?_
  refine bind_congr_of_ok fun _ _ => ?_
  simp only [Operand.rank_reversed]
  refine bind_congr_of_ok fun _ hpass => ?_
  obtain ⟨a, b, hdims⟩ := List.length_eq_two.1 (Routine.require_ok_iff.1 hpass)
  cases transposed <;> simp [Operand.reversed, Operand.dim, hdims]

end Kernel

open Kernel

variable {kind : LayerKind} {operands : List TensorInfo}

lemma judgeWeighted_modify {biasEnabled : Bool} {turn : Operand → Operand}
    {check check' : Operand → Operand → Option Operand → Operand → Judgement}
    (hcheck : ∀ x w b y, check' x (turn w) b y = check x w b y) (tensors : List Operand) :
    judgeWeighted kind (tensors.modify 2 turn) biasEnabled check'
      = judgeWeighted kind tensors biasEnabled check := by
  rcases tensors with _ | ⟨x, _ | ⟨y, _ | ⟨w, rest⟩⟩⟩
  · rfl
  · rfl
  · rfl
  · exact judgeWeighted_congr (fun b => hcheck x w b y) rest

lemma judge_reversed (p : FullyConnected) (operands : List TensorInfo) :
    judge (.fullyConnected p.flipped) (operands.modify 2 .reversed)
      = judge (.fullyConnected p) operands := by
  simp only [judge, Operand.map_ofInfo_modify]
  exact judgeWeighted_modify
    (fun _ _ _ _ => congrArg Verdict.judgement checkFullyConnected_reversed) _

/-- The third operand does not take part in what is decided in front of the kernel library, and
neither does the flag. -/
lemma Layer.ruling_reversed (p : FullyConnected) (operands : List TensorInfo) :
    (Layer.fullyConnected p.flipped).ruling (operands.modify 2 .reversed)
      = (Layer.fullyConnected p).ruling operands := by
  rcases operands with _ | ⟨x, _ | ⟨y, rest⟩⟩ <;> rfl

lemma Availability.ruling_reversed (availability : Availability) (p : FullyConnected)
    (operands : List TensorInfo) :
    availability.ruling (.fullyConnected p.flipped) (operands.modify 2 .reversed)
      = availability.ruling (.fullyConnected p) operands := by
  simp only [ruling, Layer.ruling_reversed]
  rfl

/-- **Transposition duality.**  A fully connected layer with reversed weights and the opposite flag
gets the verdict that it gets without either change, for weights of any rank and with the same words
where it is refused.  The same holds of the status of the validator for operand lists of any length,
in which the weights come third, and of the answer and its reason on every backend that asks the
kernel library. -/
theorem transposition_duality :
    (∀ (input weights output : Operand) (biases : Option Operand) (transposed : Bool),
      checkFullyConnected input weights.reversed biases output (!transposed)
        = checkFullyConnected input weights biases output transposed) ∧
    ∀ (p : FullyConnected) (operands : List TensorInfo),
      Validator.compute.validate (.fullyConnected p.flipped) (operands.modify 2 .reversed)
        = Validator.compute.validate (.fullyConnected p) operands ∧
      ∀ b : Backend, b.validator = .compute →
        b.supports (.fullyConnected p.flipped) (operands.modify 2 .reversed)
          = b.supports (.fullyConnected p) operands := by
  refine ⟨fun _ _ _ _ _ => checkFullyConnected_reversed, fun p operands => ⟨?_, ?_⟩⟩
  · exact congrArg Judgement.status (judge_reversed p operands)
  · intro b hcompute
    exact Backend.support_congr hcompute (Availability.ruling_reversed _ p operands)
      (judge_reversed p operands)

/-- Weights that are for seven inputs, where the input provides twelve, are refused in the same
words as `[7, 5]` and as `[5, 7]`. -/
theorem transposition_duality_of_refused :
    let input : TensorInfo := ⟨⟨[2, 4, 3]⟩, .float32, {}⟩
    let output : TensorInfo := ⟨⟨[2, 5]⟩, .float32, {}⟩
    let weights : TensorInfo := ⟨⟨[7, 5]⟩, .float32, {}⟩
    let refusal : Support :=
      .error (.refused "NEFullyConnectedLayer: weights expect 7 inputs, input provides 12")
    Backend.standard.validator = .compute ∧
      Backend.standard.supports (.fullyConnected {}) [input, output, weights] = refusal ∧
      Backend.standard.supports (.fullyConnected { transposeWeights := true })
        [input, output, weights.reversed] = refusal := by
  intro input output weights refusal
  have hrefused :
      Backend.standard.supports (.fullyConnected {}) [input, output, weights] = refusal := by
    decide
  have hdual := (transposition_duality.2 {} [input, output, weights]).2 Backend.standard rfl
  exact ⟨rfl, hrefused, hdual.trans hrefused⟩

end NeuralBackend
