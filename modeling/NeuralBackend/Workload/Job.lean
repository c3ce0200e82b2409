import NeuralBackend.Kernel.Activation
import NeuralBackend.Layer.Basic
import NeuralBackend.Trace.Event
import NeuralBackend.Workload.HostTensor

/-!
# Jobs

A `Job` is what a workload does to its input, element by element.

* `Job.inputType` and `Job.outputType` are the types it reads and writes.
* `Job.image?` is the mathematical effect: the list of images of the input's elements.  How a
  workload writes them over its output is told in `NeuralBackend.Workload.Basic`.
-/

namespace NeuralBackend

/-- An element-wise computation. -/
inductive Job
  | activation (p : Activation)
  | floor
  | halfToSingle
  | singleToHalf
  deriving DecidableEq, Repr, Inhabited

namespace Job

/-- The kind of workload that does a job. -/
def kind : Job → WorkloadKind
  | activation _ => .activation
  | floor => .floor
  | halfToSingle => .halfToSingle
  | singleToHalf => .singleToHalf

/-- The name of the workload that does a job. -/
def name (job : Job) : String := job.kind.name

/-- The layer that a job computes. -/
def layer : Job → Layer
  | activation p => .activation p
  | floor => .floor
  | halfToSingle => .convertFp16ToFp32
  | singleToHalf => .convertFp32ToFp16

/-- The type of elements that a job reads. -/
def inputType : Job → DataType
  | halfToSingle => .float16
  | _ => .float32

/-- The type of elements that a job writes. -/
def outputType : Job → DataType
  | singleToHalf => .float16
  | _ => .float32

/-- Whether results go through an approximation of a transcendental function. -/
def isTranscendental : Job → Bool
  | activation p => (Kernel.ActivationKernel.ofLayer p.function).isTranscendental
  | _ => false

/-- The images of the elements; `none` if the job does not read elements of that type. -/
def image? : Job → TensorData → Option TensorData
  | activation p, .float32 xs => some (.float32 (xs.map (Kernel.ActivationInfo.ofLayer p).apply))
  | floor, .float32 xs => some (.float32 (xs.map Single.floor))
  | halfToSingle, .float16 xs => some (.float32 (xs.map Half.toSingle))
  | singleToHalf, .float32 xs => some (.float16 (xs.map Single.toHalf))
  | _, _ => none

end Job

end NeuralBackend
