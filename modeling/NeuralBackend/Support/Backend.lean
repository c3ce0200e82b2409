import NeuralBackend.Support.Availability
import NeuralBackend.Support.ComputeValidator
import NeuralBackend.Trace.Event

/-!
# Support queries

A `Backend` answers, for a layer with operands, whether it can run it.

* `Availability.ruling` is everything that is decided before the kernel library is asked:
  availability, element types, and what can be read off the layer's parameters.  Either the query is
  settled there, or the library has to be asked.
* `LiveBackend.inquire` is the whole query.  It reports events and asks the validator as it goes on,
  and `LiveBackend.ask` is the only way to ask: the question is put down, and the validator
  remembers it.
* `LiveBackend.query` is the `Outcome`, which holds the answer, the events in order and the
  questions put, and `LiveBackend.session` runs queries one after the other, each with the memory
  that the ones before it have left.
* `Backend.query` and `Backend.session` are the same for a validator without a memory.
-/

namespace NeuralBackend

/-- A backend: whether it is available, whether negative answers are reported, and the validator it
asks. -/
structure Backend where
  availability : Availability
  logUnsupported : Bool
  validator : Validator

/-- What can be configured about a backend. -/
structure BackendConfig where
  availability : Availability := .build
  logUnsupported : Bool := true
  deriving DecidableEq, Repr, Inhabited

namespace Backend

/-- The validator of this build. -/
def defaultValidator : Validator := .compute

/-- The backend for a configuration.  A configuration can disable the backend, but it cannot enable
one that the build does not hold. -/
def ofConfig (config : BackendConfig) : Backend :=
  let availability := if Availability.build.isEnabled then config.availability else .disabled
  { availability
    logUnsupported := config.logUnsupported
    validator := if availability.isEnabled then defaultValidator else .unavailable }

/-- The backend of this build. -/
def standard : Backend := ofConfig {}

/-- A backend that is not available. -/
def disabled : Backend := ofConfig { availability := .disabled }

/-- A backend with a given availability and validator. -/
def withValidator (availability : Availability) (validator : Validator) : Backend :=
  { availability, logUnsupported := true, validator }

/-- The backend in words. -/
def text (b : Backend) : String :=
  "NeonLayerSupport \x7b availability: " ++ b.availability.name ++ ", validator: " ++
    Text.quoted b.validator.name ++ " \x7d"

end Backend

/-! ## What is decided before the kernel library is asked -/

/-- The result of the first part of a query. -/
inductive Ruling
  | settled (answer : Support)
  | ask
  deriving Repr

/-- What the parameters of a normalisation allow: only local brightness, only odd sizes. -/
def Normalization.support (p : Normalization) : Support :=
  if p.method ≠ .localBrightness then .error .normalizationMethod
  else if p.size.toNat % 2 = 0 then .error .normalizationSize
  else .ok ()

/-- The ruling for a layer on a backend that is available. -/
def Layer.ruling (layer : Layer) (operands : List TensorInfo) : Ruling :=
  match Strategy.of layer.kind with
  | .native => .ask
  | .dataType rules =>
      match operands with
      | [] => .settled (.error (.noInput layer.kind))
      | first :: _ => .settled (rules.check first.dataType)
  | .fullyConnected =>
      match operands with
      | [] => .ask
      | first :: _ =>
          if first.isQuantised then .settled (.error .quantisedFullyConnected) else .ask
  | .normalization =>
      match layer with
      | .normalization p =>
          match p.support with
          | .ok () => .ask
          | .error reason => .settled (.error reason)
      | _ => .ask
  | .unimplemented => .settled (.error (.notImplemented layer.kind))
  | .alwaysSupported => .settled (.ok ())

/-- The ruling for a layer.  An unavailable backend settles every query, except for the kinds that
are supported everywhere. -/
def Availability.ruling (availability : Availability) (layer : Layer)
    (operands : List TensorInfo) : Ruling :=
  if (Strategy.of layer.kind).isGated then
    match availability.check with
    | .ok () => layer.ruling operands
    | .error reason => .settled (.error reason)
  else layer.ruling operands

/-! ## Queries -/

/-- A backend whose validator has a memory. -/
structure LiveBackend (σ : Type) where
  availability : Availability
  logUnsupported : Bool
  validator : RememberingValidator σ

/-- The backend, with nothing for its validator to remember. -/
def Backend.live (b : Backend) : LiveBackend Unit where
  availability := b.availability
  logUnsupported := b.logUnsupported
  validator := b.validator.live

/-- What has come of a query so far: the events it has reported, the questions it has put, and the
memory that these have left the validator. -/
structure Transcript (σ : Type) where
  events : List Event
  questions : List Question
  memory : σ

/-- A part of a query, which may report events and ask the validator. -/
abbrev Inquiry (σ α : Type) := StateM (Transcript σ) α

/-- Reports events. -/
def report {σ : Type} (events : List Event) : Inquiry σ Unit :=
  modify fun t => { t with events := t.events ++ events }

/-- The events about a status: a failed validation is reported. -/
def statusEvents (validator : String) (kind : LayerKind) : KernelStatus → List Event
  | .ok => []
  | .runtimeError description => [.validationFailed validator kind description]

/-- The events about an answer: a negative one is reported when the backend is told to. -/
def closingEvents (logUnsupported : Bool) (kind : LayerKind) : Support → List Event
  | .ok () => []
  | .error unsupported =>
      if logUnsupported then [.notSupported kind unsupported.reason] else []

/-- The result of a query: the answer, the events in order, and what the validator was asked. -/
structure Outcome where
  support : Support
  events : List Event
  questions : List Question
  deriving Repr

namespace LiveBackend

variable {σ : Type}

/-- Asks the validator: it answers from its memory, and the question is put down and remembered. -/
def ask (b : LiveBackend σ) (q : Question) : Inquiry σ KernelStatus :=
  modifyGet fun t =>
    (b.validator.answer t.memory q,
      { t with
        questions := t.questions ++ [q]
        memory := b.validator.remember t.memory q })

/-- The answer to a query, from the ruling or else from the validator. -/
def evaluate (b : LiveBackend σ) (q : Question) : Inquiry σ Support :=
  match b.availability.ruling q.1 q.2 with
  | .settled answer => return answer
  | .ask => do
      let status ← b.ask q
      report (statusEvents b.validator.name q.1.kind status)
      return status.support

/-- A support query. -/
def inquire (b : LiveBackend σ) (q : Question) : Inquiry σ Support := do
  report [.queried q.1.kind (Strategy.of q.1.kind) q.2.length]
  let support ← b.evaluate q
  report (closingEvents b.logUnsupported q.1.kind support)
  return support

/-- The outcome of a query, and the memory that it leaves the validator. -/
def query (b : LiveBackend σ) (memory : σ) (q : Question) : Outcome × σ :=
  let (support, transcript) := (b.inquire q).run { events := [], questions := [], memory }
  ({ support, events := transcript.events, questions := transcript.questions }, transcript.memory)

/-- The outcomes of queries asked one after the other, and the memory that the validator has in the
end. -/
def session (b : LiveBackend σ) (memory : σ) : List Question → List Outcome × σ
  | [] => ([], memory)
  | q :: rest =>
      let (outcome, memory) := b.query memory q
      let (outcomes, memory) := b.session memory rest
      (outcome :: outcomes, memory)

end LiveBackend

namespace Backend

/-- A support query. -/
def query (b : Backend) (layer : Layer) (operands : List TensorInfo) : Outcome :=
  (b.live.query () (layer, operands)).1

/-- The answer of a query. -/
def supports (b : Backend) (layer : Layer) (operands : List TensorInfo) : Support :=
  (b.query layer operands).support

/-- The outcomes of queries asked one after the other. -/
def session (b : Backend) (queries : List Question) : List Outcome := (b.live.session () queries).1

end Backend

/-- The number of questions put to the validator up to and including each outcome. -/
def questionCounts (outcomes : List Outcome) : List Nat :=
  (outcomes.foldl (fun (total, counts) o =>
    let total := total + o.questions.length
    (total, counts ++ [total])) (0, [])).2

end NeuralBackend
