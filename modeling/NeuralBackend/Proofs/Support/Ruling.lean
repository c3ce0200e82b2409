import NeuralBackend.Support.Backend
import Mathlib.Tactic.Lemma
import Mathlib.Tactic.SplitIfs

/-!
# When the validator is asked

A query is settled in front of the kernel library, or the validator is asked, once.

* `Layer.passesPrecheck` is what the layer's parameters and the first operand have to allow, and
  `Availability.consults` adds the availability and the strategy to it.
* `Availability.ruling_eq_ask_iff`: these are exactly the queries that are not settled in front.
* `LiveBackend.query_of_settled` and `LiveBackend.query_of_ask` are the two forms of a query, with
  the memory that it leaves.  Nothing later opens the program of a query.
* `Backend.query_of_consults` and `Backend.query_of_not_consults` say which queries have which form;
  the second one does not mention the validator.
-/

namespace NeuralBackend

/-- Nothing that is looked at in front of the kernel library stands in the way: a fully connected
layer does not start from a quantised operand, and a normalisation has the supported method and an
odd size. -/
def Layer.passesPrecheck (layer : Layer) (operands : List TensorInfo) : Bool :=
  match layer with
  | .fullyConnected _ => operands.head?.map TensorInfo.dataType != some .quantisedAsymm8
  | .normalization p => p.method == .localBrightness && p.size.toNat % 2 == 1
  | _ => true

/-- The queries that the validator has to answer. -/
def Availability.consults (availability : Availability) (layer : Layer)
    (operands : List TensorInfo) : Bool :=
  availability.isEnabled && (Strategy.of layer.kind).usesKernelValidation &&
    layer.passesPrecheck operands

/-- The conversions between the floating point types. -/
def LayerKind.isConversion (kind : LayerKind) : Bool :=
  kind == .convertFp16ToFp32 || kind == .convertFp32ToFp16

/-! ## The ruling -/

/-- The parameters of a normalisation are supported when they pass. -/
lemma Normalization.support_eq_ok_iff {p : Normalization} :
    p.support = .ok () ↔ p.method = .localBrightness ∧ p.size.toNat % 2 = 1 := by
  unfold Normalization.support
  split_ifs with hmethod hsize
  · exact iff_of_false (fun h => by cases h) fun h => hmethod h.1
  · exact iff_of_false (fun h => by cases h) fun h => by omega
  · exact iff_of_true rfl ⟨Decidable.not_not.1 hmethod, by omega⟩

/-- Otherwise the method is named first, and then the size. -/
lemma Normalization.support_eq_error_iff {p : Normalization} {u : Unsupported} :
    p.support = .error u ↔
      (p.method = .localContrast ∧ u = .normalizationMethod) ∨
      (p.method = .localBrightness ∧ p.size.toNat % 2 = 0 ∧ u = .normalizationSize) := by
  unfold Normalization.support
  cases p.method with
  | localBrightness =>
      by_cases hsize : p.size.toNat % 2 = 0
      · simp [hsize, eq_comm]
      · simp [hsize]
  | localContrast => simp [eq_comm]

/-- On an available backend the validator is asked about the layers of a strategy that uses it,
unless something in front stands in the way. -/
lemma Layer.ruling_eq_ask_iff {layer : Layer} {operands : List TensorInfo} :
    layer.ruling operands = .ask ↔
      ((Strategy.of layer.kind).usesKernelValidation && layer.passesPrecheck operands) = true := by
  cases layer with
  | fullyConnected p =>
      cases operands with
      | nil => exact iff_of_true rfl rfl
      | cons first rest =>
          by_cases h : first.dataType = .quantisedAsymm8 <;>
            simp [ruling, kind, Strategy.of, passesPrecheck, Strategy.usesKernelValidation,
              TensorInfo.isQuantised, h]
  | normalization p =>
      have hpass : (Layer.normalization p).passesPrecheck operands = true ↔ p.support = .ok () := by
        rw [Normalization.support_eq_ok_iff]
        simp [passesPrecheck]
      simp only [kind, Strategy.of, Strategy.usesKernelValidation, Bool.true_and, hpass, ruling]
      cases p.support <;> simp
  | _ =>
      cases operands <;>
        simp [ruling, kind, Strategy.of, Strategy.usesKernelValidation, passesPrecheck]

lemma Availability.ruling_enabled {layer : Layer} {operands : List TensorInfo} :
    enabled.ruling layer operands = layer.ruling operands := by
  unfold Availability.ruling
  split_ifs
  · rfl
  · rfl

/-- The strategies that do not need an available backend are those of the conversions. -/
lemma Strategy.isGated_of (kind : LayerKind) :
    (Strategy.of kind).isGated = !kind.isConversion := by
  cases kind <;> rfl

/-- No conversion is left to the kernel library. -/
lemma Strategy.isConversion_eq_false {kind : LayerKind}
    (h : (Strategy.of kind).usesKernelValidation = true) : kind.isConversion = false := by
  cases kind <;> first | rfl | cases h

/-- An unavailable backend settles every query, and only conversions are supported. -/
lemma Availability.ruling_disabled {layer : Layer} {operands : List TensorInfo} :
    disabled.ruling layer operands =
      .settled (if layer.kind.isConversion then .ok () else .error .unavailable) := by
  unfold Availability.ruling
  rw [Strategy.isGated_of]
  cases layer <;> rfl

/-- The queries that are not settled in front are those the validator has to answer. -/
lemma Availability.ruling_eq_ask_iff {availability : Availability} {layer : Layer}
    {operands : List TensorInfo} :
    availability.ruling layer operands = .ask ↔ availability.consults layer operands = true := by
  cases availability with
  | enabled =>
      rw [ruling_enabled, Layer.ruling_eq_ask_iff]
      rfl
  | disabled =>
      rw [ruling_disabled]
      exact iff_of_false (fun h => by cases h) (fun h => by cases h)

/-- Conversions are supported on every backend. -/
lemma Availability.ruling_of_isConversion {availability : Availability} {layer : Layer}
    {operands : List TensorInfo} (h : layer.kind.isConversion = true) :
    availability.ruling layer operands = .settled (.ok ()) := by
  cases availability with
  | enabled =>
      rw [ruling_enabled]
      cases layer <;> first | rfl | cases h
  | disabled => rw [ruling_disabled, if_pos h]

/-! ## The answer of the validator -/

namespace KernelStatus

lemma support_eq_ok_iff {status : KernelStatus} :
    status.support = .ok () ↔ status.isOk = true := by
  cases status with
  | ok => exact iff_of_true rfl rfl
  | runtimeError description => exact iff_of_false (fun h => by cases h) (fun h => by cases h)

/-- A refusal gives the library's description as its reason. -/
lemma reason_of_support_eq_error {status : KernelStatus} {unsupported : Unsupported}
    (h : status.support = .error unsupported) : unsupported.reason = status.description := by
  cases status with
  | ok => cases h
  | runtimeError description =>
      cases h
      rfl

end KernelStatus

/-! ## The two forms of a query -/

namespace LiveBackend

variable {σ : Type} {b : LiveBackend σ} {q : Question}

/-- A query that is settled in front of the kernel library leaves the memory as it was. -/
lemma query_of_settled {answer : Support} (memory : σ)
    (h : b.availability.ruling q.1 q.2 = .settled answer) :
    b.query memory q =
      ({ support := answer
         events := .queried q.1.kind (Strategy.of q.1.kind) q.2.length ::
           closingEvents b.logUnsupported q.1.kind answer
         questions := [] }, memory) := by
  have hevaluate : b.evaluate q = pure answer := by
    simp only [evaluate, h]
  rw [query, inquire, hevaluate]
  rfl

/-- A query that is left to the validator is remembered. -/
lemma query_of_ask (memory : σ) (h : b.availability.ruling q.1 q.2 = .ask) :
    let status := b.validator.answer memory q
    b.query memory q =
      ({ support := status.support
         events := .queried q.1.kind (Strategy.of q.1.kind) q.2.length ::
           (statusEvents b.validator.name q.1.kind status ++
             closingEvents b.logUnsupported q.1.kind status.support)
         questions := [q] }, b.validator.remember memory q) := by
  intro status
  have hevaluate : b.evaluate q = do
      let status ← b.ask q
      report (statusEvents b.validator.name q.1.kind status)
      return status.support := by
    simp only [evaluate, h]
  rw [query, inquire, hevaluate]
  rfl

end LiveBackend

namespace Backend

variable {b : Backend} {layer : Layer} {operands : List TensorInfo}

/-- A query that is settled in front of the kernel library. -/
lemma query_of_settled {answer : Support}
    (h : b.availability.ruling layer operands = .settled answer) :
    b.query layer operands =
      { support := answer
        events := .queried layer.kind (Strategy.of layer.kind) operands.length ::
          closingEvents b.logUnsupported layer.kind answer
        questions := [] } :=
  congrArg Prod.fst (LiveBackend.query_of_settled (b := b.live) (q := (layer, operands)) () h)

/-- A query that is left to the validator. -/
lemma query_of_ask (h : b.availability.ruling layer operands = .ask) :
    b.query layer operands =
      { support := (b.validator.validate layer operands).support
        events := .queried layer.kind (Strategy.of layer.kind) operands.length ::
          (statusEvents b.validator.name layer.kind (b.validator.validate layer operands) ++
            closingEvents b.logUnsupported layer.kind
              (b.validator.validate layer operands).support)
        questions := [(layer, operands)] } :=
  congrArg Prod.fst (LiveBackend.query_of_ask (b := b.live) (q := (layer, operands)) () h)

lemma support_of_settled {answer : Support}
    (h : b.availability.ruling layer operands = .settled answer) :
    (b.query layer operands).support = answer := by
  rw [query_of_settled h]

/-- A query that the validator has to answer puts one question, and gets the answer from it. -/
lemma query_of_consults (h : b.availability.consults layer operands = true) :
    (b.query layer operands).questions = [(layer, operands)] ∧
      (b.query layer operands).support = (b.validator.validate layer operands).support := by
  rw [query_of_ask (Availability.ruling_eq_ask_iff.2 h)]
  exact ⟨rfl, rfl⟩

/-- Any other query puts no question, and it is answered alike with any validator. -/
lemma query_of_not_consults (h : b.availability.consults layer operands = false) :
    (b.query layer operands).questions = [] ∧
      ∀ v : Validator,
        ({ b with validator := v }.query layer operands).support =
          (b.query layer operands).support := by
  cases hruling : b.availability.ruling layer operands with
  | settled answer =>
      refine ⟨?_, fun v => ?_⟩
      · rw [query_of_settled hruling]
      · rw [support_of_settled hruling]
        exact support_of_settled hruling
  | ask =>
      rw [Availability.ruling_eq_ask_iff.1 hruling] at h
      cases h

/-- An unavailable backend supports the conversions and nothing else. -/
lemma support_of_disabled (h : b.availability = .disabled) :
    (b.query layer operands).support =
      if layer.kind.isConversion then .ok () else .error .unavailable := by
  refine support_of_settled ?_
  rw [h]
  exact Availability.ruling_disabled

/-- Every backend supports the conversions. -/
lemma support_of_isConversion (h : layer.kind.isConversion = true) :
    (b.query layer operands).support = .ok () :=
  support_of_settled (Availability.ruling_of_isConversion h)

/-- What is supported on an unavailable backend is a conversion, and so it is supported on every
backend. -/
lemma supports_of_disabled {b' : Backend} (hoff : b.availability = .disabled)
    (hok : (b.query layer operands).support = .ok ()) :
    (b'.query layer operands).support = .ok () := by
  cases hkind : layer.kind.isConversion with
  | true => exact support_of_isConversion hkind
  | false =>
      rw [support_of_disabled hoff, hkind] at hok
      cases hok

/-- A query puts one question or none. -/
lemma questions_eq (b : Backend) (layer : Layer) (operands : List TensorInfo) :
    (b.query layer operands).questions =
      if b.availability.consults layer operands then [(layer, operands)] else [] := by
  cases h : b.availability.consults layer operands with
  | true => exact (query_of_consults h).1
  | false => exact (query_of_not_consults h).1

end Backend

end NeuralBackend
