import NeuralBackend.Proofs.Support.Ruling
import NeuralBackend.Support.Operation

/-!
# Queries that the kernel library decides

A backend whose validator speaks for the kernel library answers a query that is not settled in front
with the judgement of the library (`Backend.support_of_consults`).  The query is answered `.ok ()`
exactly when the judgement is (`Backend.query_eq_ok_iff`, and `Backend.standard_query_eq_ok_iff` for
the backend of this build), and a judgement by a routine exactly when its check passes
(`Kernel.Verdict.judgement_eq_ok_iff`).

**Operands of a judgement.**  A judgement starts from a list of operands of any length.
`judgeTwo_ok_iff`, `judgeThree_ok_iff` and `judgeWeighted_ok_iff` say which lists get as far as the
check, and which operands it is then shown.  A layer with weights takes a bias as a fourth operand
and shows it to the check only where the bias is enabled (`enabledBias`); how it is judged depends
on its weights only through the check (`judgeWeighted_congr`).
-/

namespace NeuralBackend

lemma Judgement.status_isOk_iff {judgement : Judgement} :
    judgement.status.isOk = true ↔ judgement = .ok () := by
  rcases judgement with objection | ⟨⟩
  · exact iff_of_false (fun h => by cases h) (fun h => by cases h)
  · exact iff_of_true rfl rfl

lemma Judgement.status_eq_ok_iff {judgement : Judgement} :
    judgement.status = .ok ↔ judgement = .ok () := by
  rcases judgement with objection | ⟨⟩
  · exact iff_of_false (fun h => by cases h) (fun h => by cases h)
  · exact iff_of_true rfl rfl

/-- An objection is all that a judgement adds to a verdict. -/
lemma Kernel.Verdict.judgement_eq_ok_iff {verdict : Kernel.Verdict} :
    verdict.judgement = .ok () ↔ verdict = .ok () := by
  rcases verdict with refusal | ⟨⟩
  · exact iff_of_false (fun h => by cases h) (fun h => by cases h)
  · exact iff_of_true rfl rfl

/-- A judgement by a routine objects to nothing but what the routine refuses. -/
lemma Kernel.Verdict.judgement_eq_error_iff {verdict : Kernel.Verdict} {objection : Objection} :
    verdict.judgement = .error objection ↔
      ∃ refusal, verdict = .error refusal ∧ objection = .refused refusal := by
  rcases verdict with refusal | ⟨⟩
  · constructor
    · intro h
      exact ⟨refusal, rfl, (Except.error.inj h).symm⟩
    · rintro ⟨_, ⟨⟩, rfl⟩
      rfl
  · refine iff_of_false (fun h => by cases h) ?_
    rintro ⟨_, ⟨⟩, -⟩

/-- The status of a verdict is the text of its refusal. -/
lemma Kernel.Verdict.status_eq_runtimeError_iff {verdict : Kernel.Verdict} {text : String} :
    verdict.judgement.status = .runtimeError text ↔
      ∃ refusal, verdict = .error refusal ∧ refusal.text = text := by
  rcases verdict with refusal | ⟨⟩
  · constructor
    · intro h
      exact ⟨refusal, rfl, KernelStatus.runtimeError.inj h⟩
    · rintro ⟨_, ⟨⟩, rfl⟩
      rfl
  · refine iff_of_false (fun h => by cases h) ?_
    rintro ⟨_, ⟨⟩, -⟩

/-- An objection of the library is the reason of the answer, in its own words. -/
lemma Judgement.support_status_eq_error_iff {judgement : Judgement} {u : Unsupported} :
    judgement.status.support = .error u ↔
      ∃ objection, judgement = .error objection ∧ u = .refused objection.text := by
  rcases judgement with objection | ⟨⟩
  · constructor
    · intro h
      exact ⟨objection, rfl, (Except.error.inj h).symm⟩
    · rintro ⟨_, ⟨⟩, rfl⟩
      rfl
  · refine iff_of_false (fun h => by cases h) ?_
    rintro ⟨_, ⟨⟩, -⟩

/-- What the validator has to answer, a validator that speaks for the kernel library answers with
the judgement of the library. -/
lemma Backend.support_of_consults {b : Backend} {layer : Layer} {operands : List TensorInfo}
    (hcompute : b.validator = .compute) (h : b.availability.consults layer operands = true) :
    (b.query layer operands).support = (judge layer operands).status.support := by
  rw [(query_of_consults h).2, hcompute]
  rfl

lemma Backend.query_eq_ok_iff {b : Backend} {layer : Layer} {operands : List TensorInfo}
    (hcompute : b.validator = .compute) (h : b.availability.consults layer operands = true) :
    (b.query layer operands).support = .ok () ↔ judge layer operands = .ok () := by
  rw [support_of_consults hcompute h, KernelStatus.support_eq_ok_iff]
  exact Judgement.status_isOk_iff

lemma Backend.standard_query_eq_ok_iff {layer : Layer} {operands : List TensorInfo}
    (h : Availability.enabled.consults layer operands = true) :
    (Backend.standard.query layer operands).support = .ok () ↔ judge layer operands = .ok () :=
  query_eq_ok_iff rfl h

/-! ## Operands of a judgement -/

open Kernel

variable {kind : LayerKind} {operands : List TensorInfo}

lemma judgeTwo_ok_iff {check : Operand → Operand → Judgement} :
    judgeTwo kind (operands.map .ofInfo) check = .ok () ↔
      ∃ x y, operands = [x, y] ∧ check (.ofInfo x) (.ofInfo y) = .ok () := by
  constructor
  · intro h
    rcases operands with _ | ⟨x, _ | ⟨y, _ | ⟨_, rest⟩⟩⟩
    · cases h
    · cases h
    · exact ⟨x, y, rfl, h⟩
    · cases h
  · rintro ⟨x, y, rfl, h⟩
    exact h

/-- What is objected to on two operands: their number, or what the check objects to. -/
lemma judgeTwo_error {check : Operand → Operand → Judgement} {objection : Objection}
    (h : judgeTwo kind (operands.map .ofInfo) check = .error objection) :
    objection = .operandCount kind 2 2 operands.length ∨
      ∃ x y, operands = [x, y] ∧ check (.ofInfo x) (.ofInfo y) = .error objection := by
  rcases operands with _ | ⟨x, _ | ⟨y, _ | ⟨z, rest⟩⟩⟩
  · exact .inl (Except.error.inj h).symm
  · exact .inl (Except.error.inj h).symm
  · exact .inr ⟨x, y, rfl, h⟩
  · refine .inl ?_
    rw [← Except.error.inj h, List.length_map]

lemma judgeThree_ok_iff {check : Operand → Operand → Operand → Judgement} :
    judgeThree kind (operands.map .ofInfo) check = .ok () ↔
      ∃ x y z, operands = [x, y, z] ∧ check (.ofInfo x) (.ofInfo y) (.ofInfo z) = .ok () := by
  constructor
  · intro h
    rcases operands with _ | ⟨x, _ | ⟨y, _ | ⟨z, _ | ⟨_, rest⟩⟩⟩⟩
    · cases h
    · cases h
    · cases h
    · exact ⟨x, y, z, rfl, h⟩
    · cases h
  · rintro ⟨x, y, z, rfl, h⟩
    exact h

lemma judge_batchNormalization_ok_iff {p : BatchNormalization} :
    judge (.batchNormalization p) operands = .ok () ↔
      ∃ input output mean variance beta gamma,
        operands = [input, output, mean, variance, beta, gamma] ∧
        checkBatchNormalization (.ofInfo input) (.ofInfo output) (.ofInfo mean) (.ofInfo variance)
          (.ofInfo beta) (.ofInfo gamma) p.eps = .ok () := by
  constructor
  · intro h
    rcases operands with
      _ | ⟨a, _ | ⟨b, _ | ⟨c, _ | ⟨d, _ | ⟨e, _ | ⟨f, _ | ⟨_, rest⟩⟩⟩⟩⟩⟩⟩
    · cases h
    · cases h
    · cases h
    · cases h
    · cases h
    · cases h
    · exact ⟨a, b, c, d, e, f, rfl, Verdict.judgement_eq_ok_iff.1 h⟩
    · cases h
  · rintro ⟨a, b, c, d, e, f, rfl, h⟩
    exact Verdict.judgement_eq_ok_iff.2 h

/-- In front of its routine, an activation has one more refusal. -/
lemma judgeActivation_ok_iff {p : Activation} {x y : Operand} :
    judgeActivation p x y = .ok () ↔
      ¬(x.dataType = .quantisedAsymm8 ∧ ActivationKernel.ofLayer p.function = .logistic) ∧
      checkActivation x y (.ofLayer p) = .ok () := by
  rw [judgeActivation]
  split_ifs with hlogistic
  · exact iff_of_false (fun h => by cases h) fun h => h.1 hlogistic
  · rw [Verdict.judgement_eq_ok_iff]
    exact (and_iff_right hlogistic).symm

/-- The bias that a check is shown: the one that is given, where it is enabled. -/
def enabledBias (biasEnabled : Bool) (biases : Option TensorInfo) : Option Operand :=
  if biasEnabled then biases.map .ofInfo else none

lemma ofInfo_mem_enabledBias {biasEnabled : Bool} {biases : Option TensorInfo} {b : TensorInfo}
    (henabled : biasEnabled = true) (hb : b ∈ biases) :
    Operand.ofInfo b ∈ enabledBias biasEnabled biases := by
  rw [enabledBias, if_pos henabled]
  exact Option.mem_map_of_mem _ hb

section Weighted

variable {biasEnabled : Bool} {check : Operand → Operand → Option Operand → Operand → Judgement}

/-- Given input, output, weights and perhaps a bias, there is nothing to object to but a bias that
is enabled and missing. -/
lemma judgeWeighted_append_ok_iff {input output weights : TensorInfo}
    {biases : Option TensorInfo} :
    judgeWeighted kind (([input, output, weights] ++ biases.toList).map .ofInfo) biasEnabled check
        = .ok () ↔
      (biasEnabled = true → biases.isSome = true) ∧
      check (.ofInfo input) (.ofInfo weights) (enabledBias biasEnabled biases) (.ofInfo output)
        = .ok () := by
  cases biases <;> cases biasEnabled <;> simp [judgeWeighted, enabledBias]

lemma judgeWeighted_ok_iff :
    judgeWeighted kind (operands.map .ofInfo) biasEnabled check = .ok () ↔
      ∃ input output weights biases, operands = [input, output, weights] ++ Option.toList biases ∧
        (biasEnabled = true → biases.isSome = true) ∧
        check (.ofInfo input) (.ofInfo weights) (enabledBias biasEnabled biases) (.ofInfo output)
          = .ok () := by
  constructor
  · intro h
    rcases operands with _ | ⟨x, _ | ⟨y, _ | ⟨z, _ | ⟨b, _ | ⟨_, rest⟩⟩⟩⟩⟩
    · cases h
    · cases h
    · cases h
    · exact ⟨x, y, z, none, rfl, judgeWeighted_append_ok_iff.1 h⟩
    · exact ⟨x, y, z, some b, rfl, judgeWeighted_append_ok_iff.1 h⟩
    · cases h
  · rintro ⟨input, output, weights, biases, rfl, h⟩
    exact judgeWeighted_append_ok_iff.2 h

/-- Weights that two checks read alike are judged alike by them, with whatever operands come after
the weights. -/
lemma judgeWeighted_congr {check' : Operand → Operand → Option Operand → Operand → Judgement}
    {x y kernels kernels' : Operand}
    (hcheck : ∀ biases, check' x kernels' biases y = check x kernels biases y)
    (rest : List Operand) :
    judgeWeighted kind (x :: y :: kernels' :: rest) biasEnabled check'
      = judgeWeighted kind (x :: y :: kernels :: rest) biasEnabled check := by
  rcases rest with _ | ⟨b, _ | ⟨_, rest⟩⟩
  · simp only [judgeWeighted, hcheck]
  · simp only [judgeWeighted, hcheck]
  · rfl

end Weighted

end NeuralBackend
