import NeuralBackend.Proofs.Support.Ruling
import Mathlib.Data.List.Induction

/-!
# How often the validator is asked

A validator may remember what it has been asked and answer differently the next time.  For a fixed
memory it is a validator without one (`RememberingValidator.now`), so all that is known about one
query applies at every moment of a session: by `LiveBackend.query_eq` a query comes out as it does
with the memory of that moment, and leaves a memory that has been changed by one question or by
none.

* `LiveBackend.session_questions` and `LiveBackend.session_memory` say that a session puts the
  queries the validator has to answer, in their order, and nothing else, and that the memory changes
  by these alone.
* **`LiveBackend.validator_asked_exactly`** joins this with the answers of the single queries.
-/

namespace NeuralBackend

/-- The query is one the validator has to answer. -/
def Availability.puts (availability : Availability) (q : Question) : Bool :=
  availability.consults q.1 q.2

/-- The validator at a moment when it has the given memory. -/
def RememberingValidator.now {σ : Type} (v : RememberingValidator σ) (memory : σ) : Validator where
  name := v.name
  validate layer operands := v.answer memory (layer, operands)

/-- Running counts add up the questions from the beginning. -/
lemma questionCounts_eq (outcomes : List Outcome) :
    questionCounts outcomes = (List.range outcomes.length).map fun i =>
      ((outcomes.take (i + 1)).flatMap Outcome.questions).length := by
  have hfold : outcomes.foldl (fun (acc : Nat × List Nat) o =>
      (acc.1 + o.questions.length, acc.2 ++ [acc.1 + o.questions.length])) (0, []) =
      ((outcomes.flatMap Outcome.questions).length,
        (List.range outcomes.length).map fun i =>
          ((outcomes.take (i + 1)).flatMap Outcome.questions).length) := by
    induction outcomes using List.reverseRecOn with
    | nil => rfl
    | append_singleton outcomes o ih =>
        have htotal : ((outcomes ++ [o]).flatMap Outcome.questions).length =
            (outcomes.flatMap Outcome.questions).length + o.questions.length := by
          rw [List.flatMap_append, List.length_append, List.flatMap_singleton]
        have hearlier : ((List.range outcomes.length).map fun i =>
              (((outcomes ++ [o]).take (i + 1)).flatMap Outcome.questions).length) =
            (List.range outcomes.length).map fun i =>
              ((outcomes.take (i + 1)).flatMap Outcome.questions).length := by
          refine List.map_congr_left fun i hi => ?_
          rw [List.take_append_of_le_length (List.mem_range.1 hi)]
        have hlast : (outcomes ++ [o]).take (outcomes.length + 1) = outcomes ++ [o] :=
          List.take_of_length_le (by simp)
        rw [List.foldl_append, ih, List.length_append, List.length_singleton, List.range_succ,
          List.map_append, hearlier, List.map_singleton, hlast, htotal]
        rfl
  rw [questionCounts, hfold]

namespace LiveBackend

variable {σ : Type}

/-- The backend at a moment when its validator has the given memory. -/
def now (b : LiveBackend σ) (memory : σ) : Backend where
  availability := b.availability
  logUnsupported := b.logUnsupported
  validator := b.validator.now memory

/-! ## What a session puts to the validator -/

variable (b : LiveBackend σ)

/-- The memory after the questions of the given queries. -/
def memoryAfter (memory : σ) (queries : List Question) : σ :=
  (queries.filter b.availability.puts).foldl b.validator.remember memory

/-- A query with a memory comes out as it does at that moment, and it changes the memory when it is
one the validator has to answer. -/
lemma query_eq (memory : σ) (q : Question) :
    b.query memory q = ((b.now memory).query q.1 q.2, b.memoryAfter memory [q]) := by
  cases hruling : b.availability.ruling q.1 q.2 with
  | settled answer =>
      have hputs : b.availability.puts q = false :=
        Bool.eq_false_iff.2 fun hputs => by
          cases hruling.symm.trans (Availability.ruling_eq_ask_iff.2 hputs)
      rw [query_of_settled memory hruling, Backend.query_of_settled (b := b.now memory) hruling,
        memoryAfter, List.filter_cons_of_neg (by simp [hputs])]
      rfl
  | ask =>
      have hputs : b.availability.puts q = true := Availability.ruling_eq_ask_iff.1 hruling
      rw [query_of_ask memory hruling, Backend.query_of_ask (b := b.now memory) hruling,
        memoryAfter, List.filter_cons_of_pos hputs]
      rfl

lemma questions_now (memory : σ) (q : Question) :
    ((b.now memory).query q.1 q.2).questions = [q].filter b.availability.puts := by
  rw [Backend.questions_eq, List.filter_cons, List.filter_nil]
  rfl

lemma session_cons (memory : σ) (q : Question) (rest : List Question) :
    b.session memory (q :: rest) =
      (((b.now memory).query q.1 q.2) :: (b.session (b.memoryAfter memory [q]) rest).1,
        (b.session (b.memoryAfter memory [q]) rest).2) := by
  rw [session, query_eq]

lemma memoryAfter_singleton (memory : σ) (q : Question) :
    b.memoryAfter memory [q] =
      if b.availability.puts q then b.validator.remember memory q else memory := by
  rw [memoryAfter, List.filter_cons, List.filter_nil]
  split_ifs
  · rfl
  · rfl

lemma memoryAfter_cons (memory : σ) (q : Question) (rest : List Question) :
    b.memoryAfter memory (q :: rest) = b.memoryAfter (b.memoryAfter memory [q]) rest := by
  rw [memoryAfter, memoryAfter, memoryAfter, ← List.foldl_append, ← List.filter_append]
  rfl

/-- The questions of a session are the queries the validator has to answer, in their order. -/
theorem session_questions (memory : σ) (queries : List Question) :
    (b.session memory queries).1.flatMap Outcome.questions =
      queries.filter b.availability.puts := by
  induction queries generalizing memory with
  | nil => rfl
  | cons q rest ih =>
      rw [session_cons, List.flatMap_cons, ih, questions_now, ← List.filter_append]
      rfl

/-- A session changes the memory by the queries the validator has to answer. -/
theorem session_memory (memory : σ) (queries : List Question) :
    (b.session memory queries).2 = b.memoryAfter memory queries := by
  induction queries generalizing memory with
  | nil => rfl
  | cons q rest ih => rw [session_cons, ih, memoryAfter_cons b memory q rest]

/-- Each outcome of a session is that of its query, asked with the memory the earlier ones have
left. -/
theorem session_getElem? (memory : σ) (queries : List Question) (i : Nat) :
    (b.session memory queries).1[i]? = queries[i]?.map fun q =>
      (b.now (b.memoryAfter memory (queries.take i))).query q.1 q.2 := by
  induction queries generalizing memory i with
  | nil => rfl
  | cons q rest ih =>
      rw [session_cons]
      cases i with
      | zero => rfl
      | succ i =>
          rw [List.getElem?_cons_succ, ih, List.getElem?_cons_succ, List.take_succ_cons,
            memoryAfter_cons b memory q (rest.take i)]

/-! ## Counting -/

lemma session_take (memory : σ) (queries : List Question) (n : Nat) :
    (b.session memory queries).1.take n = (b.session memory (queries.take n)).1 := by
  induction queries generalizing memory n with
  | nil => simp only [session, List.take_nil]
  | cons q rest ih =>
      cases n with
      | zero => rfl
      | succ n => rw [session_cons, List.take_succ_cons, List.take_succ_cons, session_cons, ih]

lemma length_session (memory : σ) (queries : List Question) :
    (b.session memory queries).1.length = queries.length := by
  induction queries generalizing memory with
  | nil => rfl
  | cons q rest ih => rw [session_cons, List.length_cons, List.length_cons, ih]

/-- The running counts of a session are the numbers of queries so far that the validator has to
answer. -/
theorem questionCounts_session (memory : σ) (queries : List Question) :
    questionCounts (b.session memory queries).1 =
      (List.range queries.length).map fun i =>
        (queries.take (i + 1)).countP b.availability.puts := by
  rw [questionCounts_eq, length_session]
  refine List.map_congr_left fun i _ => ?_
  rw [session_take, session_questions, List.countP_eq_length_filter]

/-- **The validator is asked exactly when it has to be.**  At every moment of every backend, a query
the validator has to answer puts one question, which is remembered, and is answered by the status,
with its description unchanged; any other query puts none and is answered alike with any validator.
An unavailable backend supports the conversions alone, and these are supported everywhere.  Hence a
session asks, counts and remembers the queries the validator has to answer, and each of its outcomes
is that of its query with the memory the earlier ones have left. -/
theorem validator_asked_exactly (b : LiveBackend σ) (memory : σ) :
    (∀ q : Question,
      let outcome := (b.now memory).query q.1 q.2
      let status := b.validator.answer memory q
      b.query memory q =
        (outcome, if b.availability.puts q then b.validator.remember memory q else memory) ∧
      (b.availability.puts q = true →
        outcome.questions = [q] ∧ (outcome.support = .ok () ↔ status.isOk = true) ∧
        ∀ u, outcome.support = .error u → u.reason = status.description) ∧
      (b.availability.puts q = false →
        outcome.questions = [] ∧
        ∀ v : Validator,
          ({ b.now memory with validator := v }.query q.1 q.2).support = outcome.support) ∧
      (b.availability = .disabled →
        outcome.support = if q.1.kind.isConversion then .ok () else .error .unavailable) ∧
      (q.1.kind.isConversion = true → outcome.support = .ok ()) ∧
      (b.availability = .disabled → outcome.support = .ok () →
        ∀ b' : Backend, b'.availability = .enabled → (b'.query q.1 q.2).support = .ok ())) ∧
    ∀ queries : List Question,
      let outcomes := (b.session memory queries).1
      outcomes.flatMap Outcome.questions = queries.filter b.availability.puts ∧
      questionCounts outcomes = ((List.range queries.length).map fun i =>
        (queries.take (i + 1)).countP b.availability.puts) ∧
      (b.session memory queries).2 =
        (queries.filter b.availability.puts).foldl b.validator.remember memory ∧
      ∀ i, outcomes[i]? = queries[i]?.map fun q =>
        (b.now (b.memoryAfter memory (queries.take i))).query q.1 q.2 := by
  refine ⟨fun q => ⟨?_, fun hputs => ?_, ?_, ?_, ?_, ?_⟩, fun queries => ⟨?_, ?_, ?_, ?_⟩⟩
  · rw [query_eq, memoryAfter_singleton]
  · obtain ⟨hquestions, hsupport⟩ := Backend.query_of_consults (b := b.now memory) hputs
    rw [hsupport]
    exact ⟨hquestions, KernelStatus.support_eq_ok_iff,
      fun _ hu => KernelStatus.reason_of_support_eq_error hu⟩
  · exact Backend.query_of_not_consults (b := b.now memory)
  · exact Backend.support_of_disabled (b := b.now memory)
  · exact Backend.support_of_isConversion
  · intro hoff hok b' _
    exact Backend.supports_of_disabled (b := b.now memory) hoff hok
  · exact b.session_questions memory queries
  · exact b.questionCounts_session memory queries
  · exact b.session_memory memory queries
  · exact b.session_getElem? memory queries

/-- A validator that passes the first question and refuses all later ones.  Of four queries it is
asked the first and the last: a floor without operands and an even size are settled in front. -/
theorem validator_asked_twice :
    let v : RememberingValidator Nat :=
      { name := "once"
        answer := fun asked _ => if asked = 0 then .ok else .runtimeError "busy"
        remember := fun asked _ => asked + 1 }
    let b : LiveBackend Nat := ⟨.enabled, true, v⟩
    let off : LiveBackend Nat := ⟨.disabled, true, v⟩
    let queries : List Question :=
      [(.addition, []), (.floor, []), (.normalization { size := 4 }, []), (.softmax {}, [])]
    questionCounts (b.session 0 queries).1 = [1, 1, 1, 2] ∧ (b.session 0 queries).2 = 2 ∧
      ((b.now 0).query .addition []).support = .ok () ∧
      (∀ u, ((b.now 1).query (.softmax {}) []).support = .error u → u.reason = "busy") ∧
      ((b.now 1).query (.normalization { size := 4 }) []).questions = [] ∧
      ((off.now 0).query .addition []).support = .error .unavailable ∧
      ((b.now 0).query .convertFp16ToFp32 []).support = .ok () := by
  intro v b off queries
  obtain ⟨hfirst, hsession⟩ := validator_asked_exactly b 0
  obtain ⟨hlater, -⟩ := validator_asked_exactly b 1
  obtain ⟨hoff, -⟩ := validator_asked_exactly off 0
  obtain ⟨-, hcounts, hmemory, -⟩ := hsession queries
  obtain ⟨-, haddition, -⟩ := (hfirst (.addition, [])).2.1 (by decide)
  obtain ⟨-, -, hsoftmax⟩ := (hlater (.softmax {}, [])).2.1 (by decide)
  obtain ⟨hsize, -⟩ := (hlater (.normalization { size := 4 }, [])).2.2.1 (by decide)
  have hconversion := (hoff (.convertFp16ToFp32, [])).2.2.2.2
  refine ⟨hcounts.trans (by decide), hmemory.trans (by decide), haddition.2 rfl, hsoftmax, hsize,
    (hoff (.addition, [])).2.2.2.1 rfl, ?_⟩
  exact hconversion.2 rfl (hconversion.1 rfl) (b.now 0) rfl

end LiveBackend

end NeuralBackend
