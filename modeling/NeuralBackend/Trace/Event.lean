import NeuralBackend.Kernel.Activation
import NeuralBackend.Layer.Kind
import NeuralBackend.Support.Strategy
import NeuralBackend.Tensor.Shape
import NeuralBackend.Trace.Level

/-!
# Events

What queries and workloads report while they run.  An `Event` is something that happened; a `Span`
is a stretch of work, reported when it begins.  Both are plain values: a query or a run returns the
list of its reports, and showing them is left to whoever asked.

Every report has an address, which filter directives select by its beginning.
-/

namespace NeuralBackend

/-- The way a convolution is computed. -/
inductive ConvolutionMethod
  /-- Pointwise, without padding and with a bias. -/
  | direct
  /-- Through a matrix product. -/
  | general
  deriving DecidableEq, Repr, Inhabited

/-- The name of a method. -/
def ConvolutionMethod.name : ConvolutionMethod → String
  | direct => "Direct"
  | general => "General"

/-- The kinds of work a workload does. -/
inductive WorkloadKind
  | activation
  | floor
  | halfToSingle
  | singleToHalf
  deriving DecidableEq, Repr, Inhabited

/-- The name of a workload in messages. -/
def WorkloadKind.name : WorkloadKind → String
  | activation => "NeonActivationFloat32Workload"
  | floor => "NeonFloorFloat32Workload"
  | halfToSingle => "NeonConvertFp16ToFp32Workload"
  | singleToHalf => "NeonConvertFp32ToFp16Workload"

/-- The value of a field of an event. -/
inductive FieldValue
  | text (value : String)
  | count (value : Nat)
  deriving DecidableEq, Repr, Inhabited

/-- A field's value in words; counts in decimal. -/
def FieldValue.render : FieldValue → String
  | text value => value
  | count value => toString value

/-- Something that happened. -/
inductive Event
  | queried (kind : LayerKind) (strategy : Strategy) (operands : Nat)
  | validationFailed (validator : String) (kind : LayerKind) (description : String)
  | notSupported (kind : LayerKind) (reason : String)
  | methodSelected (method : ConvolutionMethod) (weights : Shape)
  | configured (function : Kernel.ActivationKernel)
  deriving DecidableEq, Repr, Inhabited

namespace Event

/-- The level of an event. -/
def level : Event → Level
  | queried .. | validationFailed .. | methodSelected .. => .trace
  | notSupported .. | configured .. => .debug

/-- The fixed text of an event. -/
def message : Event → String
  | queried .. => "layer support query"
  | validationFailed .. => "kernel validation failed"
  | notSupported .. => "layer not supported on NEON"
  | methodSelected .. => "selected convolution method"
  | configured _ => "configured " ++ WorkloadKind.activation.name

/-- The fields of an event. -/
def fields : Event → List (String × FieldValue)
  | queried kind strategy operands =>
      [("kind", .text kind.name), ("strategy", .text strategy.text), ("operands", .count operands)]
  | validationFailed validator kind description =>
      [("validator", .text validator), ("kind", .text kind.name),
        ("description", .text description)]
  | notSupported kind reason => [("kind", .text kind.name), ("reason", .text reason)]
  | methodSelected method weights =>
      [("method", .text method.name), ("weights", .text weights.text)]
  | configured function => [("function", .text function.name)]

/-- The address of an event. -/
def address : Event → String
  | queried .. | notSupported .. => "neonforge::support::layer_support"
  | validationFailed .. => "neonforge::support::validator"
  | methodSelected .. => "neonforge::support::algorithm"
  | configured _ => "neonforge::workloads::activation"

end Event

/-- A stretch of work: one execution of a workload. -/
structure Span where
  workload : WorkloadKind
  deriving DecidableEq, Repr, Inhabited

namespace Span

/-- The name of a span. -/
def name (s : Span) : String := s.workload.name ++ "_Execute"

/-- The level of every span. -/
def level (_ : Span) : Level := .trace

/-- The address of a span. -/
def address (s : Span) : String :=
  match s.workload with
  | .activation => "neonforge::workloads::activation"
  | .floor => "neonforge::workloads::floor"
  | .halfToSingle | .singleToHalf => "neonforge::workloads::convert"

end Span

/-- One entry of a trace. -/
inductive Report
  | event (e : Event)
  | span (s : Span)
  deriving DecidableEq, Repr, Inhabited

end NeuralBackend
