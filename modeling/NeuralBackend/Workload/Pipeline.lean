import NeuralBackend.Support.Backend
import NeuralBackend.Workload.Basic

/-!
# Pipelines

A pipeline passes a tensor through jobs, one after the other.  Before each job the backend is asked
whether it supports the job's layer; whatever it says, a blank output of the same shape is made and
the job is run.  The first job that fails ends the pipeline.
-/

namespace NeuralBackend

/-- What a stage answered: the backend's opinion, and the new tensor or the fault. -/
structure StageRecord where
  support : Support
  result : Except Fault HostTensor
  deriving Repr

namespace Job

/-- The description of the output a job is given in a pipeline. -/
def outputInfo (job : Job) (input : HostTensor) : TensorInfo where
  shape := input.info.shape
  dataType := job.outputType

/-- The job's result on a tensor, written to a blank output. -/
def result (job : Job) (input : HostTensor) : Except Fault HostTensor := do
  let output ← HostTensor.zeros (job.outputInfo input)
  let workload ← Workload.configure job [input] [output]
  match workload.execute with
  | .ok () finished => return finished.output
  | .error fault _ => throw fault

/-- One stage of a pipeline. -/
def stage (job : Job) (backend : Backend) (input : HostTensor) : StageRecord where
  support := backend.supports job.layer [input.info, job.outputInfo input]
  result := job.result input

end Job

/-- The records of the stages of a pipeline. -/
def Backend.pipeline (backend : Backend) (input : HostTensor) : List Job → List StageRecord
  | [] => []
  | job :: rest =>
      let record := job.stage backend input
      match record.result with
      | .ok output => record :: backend.pipeline output rest
      | .error _ => [record]

end NeuralBackend
