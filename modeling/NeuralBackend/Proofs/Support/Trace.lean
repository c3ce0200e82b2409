import NeuralBackend.Proofs.Support.Consultation

/-!
# What a query reports

The events of a query are in three parts: the query itself, the failed validation if there was one,
and the negative answer if there is one and the backend is told to report it.

* `Event.Shows` is an event as it reaches whoever listens: its level, its text and its fields.
* `Backend.Traced` says that the events of an outcome are these three parts, in this order, and that
  the last two quote the reason of the answer.  `Backend.exists_failure` and
  `Backend.exists_closing` provide them, and `Backend.query_traced` puts them together for both ways
  in which a query can go.

**Reporting changes nothing else.**  `Outcome.reported` appends the report of a negative answer.
`Backend.query_reported` compares a query on a backend that reports negative answers with the same
query on one that does not, and `LiveBackend.session_reported` compares whole sessions: as the
questions are the same, a validator that remembers them has the same memory after each query.

**`LiveBackend.trace_determined`** states all of it for every backend at every moment.
-/

namespace NeuralBackend

/-- The event has this level, this text and these fields. -/
def Event.Shows (e : Event) (level : Level) (message : String)
    (fields : List (String × FieldValue)) : Prop :=
  e.level = level ∧ e.message = message ∧ e.fields = fields

/-- The report that goes with an answer: that of the reason, if it is negative. -/
def Support.report (kind : LayerKind) : Support → List Event
  | .ok () => []
  | .error u => [.notSupported kind u.reason]

/-- The outcome with the report of its answer after its other events. -/
def Outcome.reported (o : Outcome) (kind : LayerKind) : Outcome :=
  { o with events := o.events ++ o.support.report kind }

namespace Backend

/-- The events of an outcome say what has been decided.  The query comes first; then the failed
validation, if the validator was asked and refused; then the negative answer, if there is one and
the backend is told to report it. -/
def Traced (b : Backend) (q : Question) (o : Outcome) : Prop :=
  ∃ (opening : Event) (failure closing : Option Event),
    o.events = opening :: (failure.toList ++ closing.toList) ∧
    opening.Shows .trace "layer support query"
      [("kind", .text q.1.kind.name), ("strategy", .text (Strategy.of q.1.kind).text),
        ("operands", .count q.2.length)] ∧
    (failure.isSome = true ↔
      o.questions = [q] ∧ (b.validator.validate q.1 q.2).isOk = false) ∧
    (∀ e ∈ failure, ∃ u, o.support = .error u ∧
      e.Shows .trace "kernel validation failed"
        [("validator", .text b.validator.name), ("kind", .text q.1.kind.name),
          ("description", .text u.reason)]) ∧
    (closing.isSome = true ↔ (∃ u, o.support = .error u) ∧ b.logUnsupported = true) ∧
    ∀ e ∈ closing, ∃ u, o.support = .error u ∧
      e.Shows .debug "layer not supported on NEON"
        [("kind", .text q.1.kind.name), ("reason", .text u.reason)]

/-! ## The parts of a trace -/

variable (b : Backend) {layer : Layer} {operands : List TensorInfo}

lemma exists_failure (kind : LayerKind) (status : KernelStatus) :
    ∃ failure : Option Event, statusEvents b.validator.name kind status = failure.toList ∧
      (failure.isSome = true ↔ status.isOk = false) ∧
      ∀ e ∈ failure, ∃ u, status.support = .error u ∧
        e.Shows .trace "kernel validation failed"
          [("validator", .text b.validator.name), ("kind", .text kind.name),
            ("description", .text u.reason)] := by
  cases status with
  | ok => exact ⟨none, rfl, by decide, fun e he => by cases he⟩
  | runtimeError description =>
      refine ⟨some (.validationFailed b.validator.name kind description), rfl,
        iff_of_true rfl rfl, ?_⟩
      rintro e ⟨⟩
      exact ⟨.refused description, rfl, rfl, rfl, rfl⟩

lemma exists_closing (kind : LayerKind) (support : Support) :
    ∃ closing : Option Event, closingEvents b.logUnsupported kind support = closing.toList ∧
      (closing.isSome = true ↔ (∃ u, support = .error u) ∧ b.logUnsupported = true) ∧
      ∀ e ∈ closing, ∃ u, support = .error u ∧
        e.Shows .debug "layer not supported on NEON"
          [("kind", .text kind.name), ("reason", .text u.reason)] := by
  rcases support with u | ⟨⟩
  · cases b.logUnsupported with
    | true =>
        refine ⟨some (.notSupported kind u.reason), rfl,
          iff_of_true rfl ⟨⟨u, rfl⟩, rfl⟩, ?_⟩
        rintro e ⟨⟩
        exact ⟨u, rfl, rfl, rfl, rfl⟩
    | false =>
        refine ⟨none, rfl, by simp, fun e he => by cases he⟩
  · exact ⟨none, rfl, by simp, fun e he => by cases he⟩

lemma query_traced (q : Question) : b.Traced q (b.query q.1 q.2) := by
  cases hruling : b.availability.ruling q.1 q.2 with
  | settled answer =>
      obtain ⟨closing, hclosing, hsome, hshows⟩ := b.exists_closing q.1.kind answer
      rw [query_of_settled hruling, hclosing]
      refine ⟨_, none, closing, rfl, ⟨rfl, rfl, rfl⟩, ?_, fun e he => ?_, hsome, hshows⟩
      · simp
      · cases he
  | ask =>
      obtain ⟨failure, hfailure, hfails, hdescribes⟩ :=
        b.exists_failure q.1.kind (b.validator.validate q.1 q.2)
      obtain ⟨closing, hclosing, hsome, hshows⟩ :=
        b.exists_closing q.1.kind (b.validator.validate q.1 q.2).support
      rw [query_of_ask hruling, hfailure, hclosing]
      refine ⟨_, failure, closing, rfl, ⟨rfl, rfl, rfl⟩, ?_, hdescribes, hsome, hshows⟩
      rw [hfails]
      exact (and_iff_right rfl).symm

/-! ## With and without reports of answers -/

/-- A backend that reports negative answers does what one that does not report them does, and then
reports. -/
lemma query_reported :
    { b with logUnsupported := true }.query layer operands =
      ({ b with logUnsupported := false }.query layer operands).reported layer.kind := by
  -- neither the ruling nor the validator can tell the two backends apart
  cases hruling : b.availability.ruling layer operands with
  | settled answer =>
      rw [query_of_settled (b := { b with logUnsupported := true }) hruling,
        query_of_settled (b := { b with logUnsupported := false }) hruling]
      rcases answer with u | ⟨⟩
      · rfl
      · rfl
  | ask =>
      rw [query_of_ask (b := { b with logUnsupported := true }) hruling,
        query_of_ask (b := { b with logUnsupported := false }) hruling]
      cases b.validator.validate layer operands with
      | ok => rfl
      | runtimeError description => rfl

end Backend

namespace LiveBackend

variable {σ : Type} (b : LiveBackend σ)

lemma query_now_reported (memory : σ) (q : Question) :
    ({ b with logUnsupported := true }.now memory).query q.1 q.2 =
      (({ b with logUnsupported := false }.now memory).query q.1 q.2).reported q.1.kind :=
  (b.now memory).query_reported

lemma session_reported (memory : σ) (queries : List Question) :
    { b with logUnsupported := true }.session memory queries =
      (List.zipWith (fun q o => o.reported q.1.kind) queries
          ({ b with logUnsupported := false }.session memory queries).1,
        ({ b with logUnsupported := false }.session memory queries).2) := by
  induction queries generalizing memory with
  | nil => rfl
  | cons q rest ih =>
      -- what is remembered depends on the questions, and these are the same
      have hmemory : { b with logUnsupported := true }.memoryAfter memory [q] =
          { b with logUnsupported := false }.memoryAfter memory [q] := rfl
      rw [session_cons, session_cons, query_now_reported, hmemory, ih]
      rfl

/-- **The trace of a query is determined by what has been decided.**  At every moment of every
backend a query reports itself, a failed validation if there was one, and a negative answer if the
backend is told to.  Told so or not, it gives the same answer and puts the same question, and its
events differ by the last report alone; and so it is with every query of a session, which leaves the
validator with the same memory. -/
theorem trace_determined (b : LiveBackend σ) (memory : σ) :
    (∀ q : Question, (b.now memory).Traced q ((b.now memory).query q.1 q.2)) ∧
    (∀ q : Question,
      let on := ({ b with logUnsupported := true }.now memory).query q.1 q.2
      let off := ({ b with logUnsupported := false }.now memory).query q.1 q.2
      on.support = off.support ∧ on.questions = off.questions ∧
        on.events = off.events ++ off.support.report q.1.kind) ∧
    ∀ queries : List Question,
      let on := { b with logUnsupported := true }.session memory queries
      let off := { b with logUnsupported := false }.session memory queries
      on.1 = List.zipWith (fun q o => o.reported q.1.kind) queries off.1 ∧ on.2 = off.2 := by
  refine ⟨fun q => (b.now memory).query_traced q, fun q => ?_, fun queries => ?_⟩
  · rw [query_now_reported]
    exact ⟨rfl, rfl, rfl⟩
  · rw [session_reported]
    exact ⟨rfl, rfl⟩

end LiveBackend

/-- A sum without operands is refused by the kernel library, and reported by its own validator and
by the backend. -/
example : (Backend.standard.query .addition []).events =
    [.queried .addition .native 0,
      .validationFailed "compute" .addition "Addition: expected 3 operands, got 0",
      .notSupported .addition "Addition: expected 3 operands, got 0"] := by
  rfl

end NeuralBackend
