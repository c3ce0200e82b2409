import NeuralBackend.Proofs.Kernel.Check.Elementwise
import NeuralBackend.Proofs.Kernel.Check.Rearranged
import NeuralBackend.Proofs.Support.Judgement

/-!
# Checks in front of the kernel library

A fully connected layer with a quantised input and a normalisation of an even size are turned down
before the kernel library is asked.  Both would be turned down by the library as well, whatever the
other operands are and however many (`judge_of_quantised_fullyConnected`, `judge_of_even_size`), so
these checks save a question and change no verdict.  The method of a normalisation is another
matter: the library never looks at it.

**`prechecks_keep_verdict`** states both for a backend that is available and asks the kernel
library, together with what the checks leave for the library to say: since no even size gets that
far, the library's own refusal of even sizes is never the reason of an answer.
-/

namespace NeuralBackend

open Kernel

/-! ## Refusals of the library -/

/-- No routine of the library connects a quantised input. -/
lemma judge_of_quantised_fullyConnected {p : FullyConnected} {operands : List TensorInfo}
    (h : operands.head?.map TensorInfo.dataType = some .quantisedAsymm8) :
    judge (.fullyConnected p) operands ≠ .ok () := by
  intro hok
  rw [judge, judgeWeighted_ok_iff] at hok
  obtain ⟨input, output, weights, biases, rfl, -, hcheck⟩ := hok
  have htype : input.dataType = .quantisedAsymm8 := Option.some.inj h
  obtain ⟨hfloat, -⟩ := checkFullyConnected_ok_iff.1 (Verdict.judgement_eq_ok_iff.1 hcheck)
  have hquantised : DataType.quantisedAsymm8 ∈ floatTypes := htype ▸ hfloat
  exact absurd hquantised (by decide)

/-- No routine of the library normalises over windows of an even size. -/
lemma judge_of_even_size {p : Normalization} {operands : List TensorInfo}
    (h : p.size.toNat % 2 = 0) : judge (.normalization p) operands ≠ .ok () := by
  intro hok
  rw [judge, judgeTwo_ok_iff] at hok
  obtain ⟨input, output, rfl, hcheck⟩ := hok
  obtain ⟨-, -, -, hodd⟩ := checkNormalization_ok_iff.1 (Verdict.judgement_eq_ok_iff.1 hcheck)
  cases h.symm.trans hodd

/-- What does not pass in front of the library would not pass there either, but for the method of a
normalisation. -/
lemma judge_of_not_passesPrecheck {layer : Layer} {operands : List TensorInfo}
    (hmethod : ∀ p, layer = .normalization p → p.method = .localBrightness)
    (h : layer.passesPrecheck operands = false) : judge layer operands ≠ .ok () := by
  cases layer with
  | fullyConnected p =>
      refine judge_of_quantised_fullyConnected ?_
      simpa [Layer.passesPrecheck] using h
  | normalization p =>
      refine judge_of_even_size ?_
      simpa [Layer.passesPrecheck, hmethod p rfl] using h
  | _ => cases h

/-! ## Answers in front of the library -/

section Answers

variable {b : Backend} {operands : List TensorInfo}

/-- On an available backend the ruling for the layer gives the answer. -/
lemma Backend.support_of_ruling {layer : Layer} {answer : Support}
    (hon : b.availability = .enabled) (h : layer.ruling operands = .settled answer) :
    (b.query layer operands).support = answer := by
  refine support_of_settled ?_
  rw [hon, Availability.ruling_enabled]
  exact h

lemma Backend.query_of_quantised_fullyConnected {p : FullyConnected}
    (hon : b.availability = .enabled)
    (h : operands.head?.map TensorInfo.dataType = some .quantisedAsymm8) :
    (b.query (.fullyConnected p) operands).support = .error .quantisedFullyConnected := by
  refine support_of_ruling hon ?_
  cases operands with
  | nil => cases h
  | cons first rest =>
      have htype : first.dataType = .quantisedAsymm8 := Option.some.inj h
      simp [Layer.ruling, Layer.kind, Strategy.of, TensorInfo.isQuantised, htype]

lemma Backend.query_of_normalization_error {p : Normalization} {u : Unsupported}
    (hon : b.availability = .enabled) (h : p.support = .error u) :
    (b.query (.normalization p) operands).support = .error u := by
  refine support_of_ruling hon ?_
  simp [Layer.ruling, Layer.kind, Strategy.of, h]

/-- What does not pass in front of the library is not supported. -/
lemma Backend.query_of_not_passesPrecheck {layer : Layer} (hon : b.availability = .enabled)
    (h : layer.passesPrecheck operands = false) :
    ∃ u, (b.query layer operands).support = .error u := by
  cases layer with
  | fullyConnected p =>
      refine ⟨_, query_of_quantised_fullyConnected hon ?_⟩
      simpa [Layer.passesPrecheck] using h
  | normalization p =>
      cases hp : p.support with
      | error u => exact ⟨u, query_of_normalization_error hon hp⟩
      | ok v =>
          obtain ⟨hmethod, hodd⟩ := Normalization.support_eq_ok_iff.1 hp
          simp [Layer.passesPrecheck, hmethod, hodd] at h
  | _ => cases h

/-- What an available backend supports, of the kinds that it asks the kernel library about, the
library runs. -/
lemma Backend.judge_of_support {layer : Layer} (hon : b.availability = .enabled)
    (hcompute : b.validator = .compute)
    (hkernel : (Strategy.of layer.kind).usesKernelValidation = true)
    (h : (b.query layer operands).support = .ok ()) : judge layer operands = .ok () := by
  cases hpass : layer.passesPrecheck operands with
  | true =>
      refine (query_eq_ok_iff hcompute ?_).1 h
      rw [Availability.consults, hon, hkernel, hpass]
      rfl
  | false =>
      obtain ⟨u, hu⟩ := query_of_not_passesPrecheck hon hpass
      rw [hu] at h
      cases h

/-- What the library runs, an available backend supports, but for the method of a normalisation. -/
lemma Backend.support_of_judge {layer : Layer} (hon : b.availability = .enabled)
    (hcompute : b.validator = .compute)
    (hkernel : (Strategy.of layer.kind).usesKernelValidation = true)
    (hmethod : ∀ p, layer = .normalization p → p.method = .localBrightness)
    (h : judge layer operands = .ok ()) : (b.query layer operands).support = .ok () := by
  cases hpass : layer.passesPrecheck operands with
  | true =>
      refine (query_eq_ok_iff hcompute ?_).2 h
      rw [Availability.consults, hon, hkernel, hpass]
      rfl
  | false => exact absurd h (judge_of_not_passesPrecheck hmethod hpass)

/-- Whether such a layer is supported is for the library to say, once the backend is available. -/
lemma Backend.support_eq_ok_iff_judge {layer : Layer} (hcompute : b.validator = .compute)
    (hkernel : (Strategy.of layer.kind).usesKernelValidation = true)
    (hmethod : ∀ p, layer = .normalization p → p.method = .localBrightness) :
    (b.query layer operands).support = .ok () ↔
      b.availability = .enabled ∧ judge layer operands = .ok () := by
  constructor
  · intro h
    cases hon : b.availability with
    | enabled => exact ⟨rfl, judge_of_support hon hcompute hkernel h⟩
    | disabled =>
        rw [support_of_disabled hon, Strategy.isConversion_eq_false hkernel] at h
        cases h
  · rintro ⟨hon, hjudge⟩
    exact support_of_judge hon hcompute hkernel hmethod hjudge

end Answers

/-! ## The refusal of even sizes -/

/-- What is refused about types and shapes does not read like the refusal of an even size. -/
lemma Kernel.Cause.text_ne_evenSize {cause : Cause} {t t' : DataType} {dims dims' : List UInt32}
    (h : cause = .dataType t ∨ cause = .dataTypes t t' ∨ cause = .shapes dims dims') :
    cause.text ≠ Cause.evenSize.text := by
  intro heq
  have heven : Cause.evenSize.text.toList.head? = some 'n' := by decide
  -- the other three texts begin with another letter
  rw [← heq] at heven
  rcases h with rfl | rfl | rfl
  · rw [show (Cause.dataType t).text = "data type " ++ t.name ++ " not supported" from rfl] at heven
    simp [String.toList_append] at heven
  · rw [show (Cause.dataTypes t t').text =
      "data types mismatch (" ++ t.name ++ " vs " ++ t'.name ++ ")" from rfl] at heven
    simp [String.toList_append] at heven
  · rw [show (Cause.shapes dims dims').text = "shapes mismatch (" ++ dimensionsText dims ++
      " vs " ++ dimensionsText dims' ++ ")" from rfl] at heven
    simp [String.toList_append] at heven

/-- Nor does the objection to a number of operands. -/
lemma Objection.text_operandCount_ne_evenSize (count : Nat) :
    (operandCount .normalization 2 2 count).text ≠ (Refusal.mk .normalization .evenSize).text := by
  intro heq
  have heven : (Refusal.mk .normalization .evenSize).text.toList[1]? = some 'E' := by decide
  rw [← heq, show (operandCount .normalization 2 2 count).text =
    "Normalization" ++ ": expected " ++ toString 2 ++ " operands, got " ++ toString count from rfl]
    at heven
  simp [String.toList_append] at heven

/-- With an odd size the library objects to the number of operands, their types or their shapes. -/
lemma judge_normalization_text_ne {p : Normalization} {operands : List TensorInfo}
    {objection : Objection} (hodd : p.size.toNat % 2 = 1)
    (h : judge (.normalization p) operands = .error objection) :
    objection.text ≠ (Refusal.mk .normalization .evenSize).text := by
  rw [judge] at h
  rcases judgeTwo_error h with rfl | ⟨x, y, -, hcheck⟩
  · exact Objection.text_operandCount_ne_evenSize _
  · obtain ⟨⟨routine, cause⟩, hrefused, rfl⟩ := Verdict.judgement_eq_error_iff.1 hcheck
    obtain ⟨rfl, hcause⟩ := cause_of_checkNormalization_error hodd hrefused
    intro heq
    exact Cause.text_ne_evenSize hcause ((String.append_right_inj _).1 heq)

/-- Whatever the reason why a normalisation is not supported, it is not the library's refusal of an
even size. -/
lemma Backend.normalization_reason_ne {b : Backend} {p : Normalization}
    {operands : List TensorInfo} {u : Unsupported} (hon : b.availability = .enabled)
    (hcompute : b.validator = .compute)
    (h : (b.query (.normalization p) operands).support = .error u) :
    u.reason ≠ (Refusal.mk .normalization .evenSize).text := by
  cases hp : p.support with
  | error u' =>
      rw [query_of_normalization_error hon hp] at h
      cases h
      rcases Normalization.support_eq_error_iff.1 hp with ⟨-, rfl⟩ | ⟨-, -, rfl⟩
      · decide
      · decide
  | ok v =>
      obtain ⟨hmethod, hodd⟩ := Normalization.support_eq_ok_iff.1 hp
      have hasked : b.availability.consults (.normalization p) operands = true := by
        rw [hon]
        simp [Availability.consults, Availability.isEnabled, Layer.kind, Strategy.of,
          Strategy.usesKernelValidation, Layer.passesPrecheck, hmethod, hodd]
      rw [support_of_consults hcompute hasked, Judgement.support_status_eq_error_iff] at h
      obtain ⟨objection, hjudge, rfl⟩ := h
      exact judge_normalization_text_ne hodd hjudge

lemma NormalizationMethod.eq_localBrightness {method : NormalizationMethod}
    (h : method ≠ .localContrast) : method = .localBrightness := by
  cases method with
  | localBrightness => rfl
  | localContrast => exact absurd rfl h

/-- **Checks in front of the library keep its verdict.**  On a backend that is available and asks
the kernel library, a layer of a kind that the library validates is supported exactly when the
library runs it, for any operands, unless it is a normalisation of local contrast; that is never
supported.  A quantised input of a fully connected layer and an even size of a normalisation are
turned down with reasons of their own, where the library would turn them down as well, and the
library's own words about even sizes are never the reason. -/
theorem prechecks_keep_verdict {b : Backend} (hon : b.availability = .enabled)
    (hcompute : b.validator = .compute) (operands : List TensorInfo) :
    (∀ layer : Layer, (Strategy.of layer.kind).usesKernelValidation = true →
      (∀ p, layer = .normalization p → p.method ≠ .localContrast) →
      ((b.query layer operands).support = .ok () ↔
        (Validator.compute.validate layer operands).isOk = true)) ∧
    (∀ p, operands.head?.map TensorInfo.dataType = some .quantisedAsymm8 →
      (b.query (.fullyConnected p) operands).support = .error .quantisedFullyConnected ∧
      (Validator.compute.validate (.fullyConnected p) operands).isOk = false) ∧
    ∀ p : Normalization,
      (p.method = .localContrast →
        (b.query (.normalization p) operands).support = .error .normalizationMethod) ∧
      (p.method ≠ .localContrast → p.size.toNat % 2 = 0 →
        (b.query (.normalization p) operands).support = .error .normalizationSize ∧
        (Validator.compute.validate (.normalization p) operands).isOk = false) ∧
      ∀ u, (b.query (.normalization p) operands).support = .error u →
        u.reason ≠ (Refusal.mk .normalization .evenSize).text := by
  have hverdict : ∀ layer : Layer,
      (Validator.compute.validate layer operands).isOk = true ↔ judge layer operands = .ok () :=
    fun layer => Judgement.status_isOk_iff
  refine ⟨fun layer hkernel hmethod => ?_, fun p hquantised => ⟨?_, ?_⟩,
    fun p => ⟨fun hcontrast => ?_, fun hmethod heven => ⟨?_, ?_⟩, fun u hu => ?_⟩⟩
  · rw [hverdict]
    refine ⟨Backend.judge_of_support hon hcompute hkernel,
      Backend.support_of_judge hon hcompute hkernel fun p hp => ?_⟩
    exact NormalizationMethod.eq_localBrightness (hmethod p hp)
  · exact Backend.query_of_quantised_fullyConnected hon hquantised
  · rw [Bool.eq_false_iff, ne_eq, hverdict]
    exact judge_of_quantised_fullyConnected hquantised
  · refine Backend.query_of_normalization_error hon ?_
    exact Normalization.support_eq_error_iff.2 (.inl ⟨hcontrast, rfl⟩)
  · refine Backend.query_of_normalization_error hon ?_
    have hbrightness := NormalizationMethod.eq_localBrightness hmethod
    exact Normalization.support_eq_error_iff.2 (.inr ⟨hbrightness, heven, rfl⟩)
  · rw [Bool.eq_false_iff, ne_eq, hverdict]
    exact judge_of_even_size heven
  · exact Backend.normalization_reason_ne hon hcompute hu

/-- A quantised vector alone: the fully connected layer and the even size are turned down in front
of the library, and the odd size by the library, for want of an output.  The library itself answers
for the vector and a copy of it. -/
theorem prechecks_keep_verdict_of_quantised_vector :
    let b := Backend.standard
    let x : TensorInfo := ⟨⟨[4]⟩, .quantisedAsymm8, {}⟩
    (b.query (.fullyConnected {}) [x]).support = .error .quantisedFullyConnected ∧
      (Validator.compute.validate (.fullyConnected {}) [x]).isOk = false ∧
      (b.query (.normalization { size := 4 }) [x]).support = .error .normalizationSize ∧
      (∀ u, (b.query (.normalization { size := 3 }) [x]).support = .error u →
        u.reason ≠ "NENormalizationLayer: normalization size must be odd") ∧
      (b.query (.activation { function := .boundedReLu }) [x, x]).support = .ok () := by
  intro b x
  obtain ⟨-, hconnected, hnormalized⟩ :=
    prechecks_keep_verdict (b := Backend.standard) rfl rfl [x]
  obtain ⟨hverdict, -⟩ := prechecks_keep_verdict (b := Backend.standard) rfl rfl [x, x]
  obtain ⟨hquery, hlibrary⟩ := hconnected {} rfl
  obtain ⟨-, heven, -⟩ := hnormalized { size := 4 }
  obtain ⟨-, -, hreason⟩ := hnormalized { size := 3 }
  refine ⟨hquery, hlibrary, (heven (by decide) rfl).1, hreason, ?_⟩
  have hmethod : ∀ p, Layer.activation { function := .boundedReLu } = .normalization p →
      p.method ≠ .localContrast := fun p hp => by cases hp
  exact (hverdict (.activation { function := .boundedReLu }) rfl hmethod).2 (by decide)

end NeuralBackend
