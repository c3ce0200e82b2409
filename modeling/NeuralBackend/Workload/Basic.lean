import NeuralBackend.Workload.Job

/-!
# Workloads

A `Workload` is a job bound to one input and one output tensor.

* `Workload.configure` builds one and checks what a support query has established: the number of
  operands, then the type of the input, then the type of the output, then the shapes.
* `Workload.execute` runs the job.  The input may have been replaced in the meantime, so shape and
  type are looked at once more.  It is `Work` on the workload, which changes in place: also work
  that fails leaves a workload behind.
* `Workload.step` is one step of using a workload, and `WorkloadRun` the record of a whole use.
-/

namespace NeuralBackend

/-- A job bound to its tensors. -/
structure Workload where
  job : Job
  input : HostTensor
  output : HostTensor
  deriving DecidableEq, Repr

namespace Workload

/-- The tensor's elements have the expected type. -/
def requireType (job : Job) (t : HostTensor) (expected : DataType) : Except Fault Unit :=
  if t.info.dataType = expected then .ok ()
  else .error (.dataTypeMismatch job.name expected t.info.dataType)

/-- Two tensors have one shape, dimension by dimension. -/
def requireSameShape (job : Job) (input output : HostTensor) : Except Fault Unit :=
  if input.info.shape = output.info.shape then .ok ()
  else .error (.contractViolation (.shapeMismatch job.name input.info.shape output.info.shape))

/-- The workload for a job with the given operands. -/
def configure (job : Job) (inputs outputs : List HostTensor) : Except Fault Workload :=
  match inputs, outputs with
  | [input], [output] => do
      requireType job input job.inputType
      requireType job output job.outputType
      requireSameShape job input output
      return { job, input, output }
  | _, _ => .error (.operandCount job.name 1 1 inputs.length outputs.length)

/-- What a successful construction reports. -/
def configureReports : Job → List Report
  | .activation p => [.event (.configured (.ofLayer p.function))]
  | _ => []

/-! ## Executing a workload -/

/-- Something done to a workload in place.  It may fail, and what it has done until then stays
done. -/
abbrev Work (α : Type) := EStateM Fault Workload α

/-- The fault of a workload that has been bound to a tensor it cannot run on. -/
def reboundFault (w : Workload) : Fault := .contractViolation (.reboundStorage w.job.name)

/-- Gives up over a bound tensor. -/
def rebound {α : Type} : Work α := do
  throw (← get).reboundFault

/-- What there is, or else the work is given up. -/
def demand {α : Type} : Option α → Work α
  | some a => pure a
  | none => rebound

/-- Input and output have one shape, dimension by dimension. -/
def requireBoundShapes : Work Unit := do
  let w ← get
  if w.input.info.shape = w.output.info.shape then pure () else rebound

/-- Writes the images of the input's numbers over the output, when there are views of both. -/
def applyKernel {α β : Type} (source : TensorView α) (target : TensorView β) (kernel : α → β) :
    Work Unit := do
  let w ← get
  let input ← demand (source.read? w.input.data)
  let output ← demand (w.output.update? target (Kernel.writeOver kernel input)
    (Kernel.length_writeOver kernel input))
  set { w with output }

/-- The kernel of a job, between the views it reads and writes. -/
def runKernel : Job → Work Unit
  | .activation p => applyKernel .float32 .float32 (Kernel.ActivationInfo.ofLayer p).apply
  | .floor => applyKernel .float32 .float32 Single.floor
  | .halfToSingle => applyKernel .float16 .float32 Half.toSingle
  | .singleToHalf => applyKernel .float32 .float16 Single.toHalf

/-- One execution of the job, with the workload as it is afterwards. -/
def execute (w : Workload) : EStateM.Result Fault Workload Unit :=
  EStateM.run (do
    requireBoundShapes
    runKernel w.job) w

end Workload

/-! ## Using a workload -/

/-- A step of using a workload. -/
inductive Step
  | execute
  /-- Another tensor becomes the input. -/
  | rebind (source : TensorSource)
  /-- One element of the input is replaced. -/
  | write (index : Nat) (element : Element)
  /-- The output, as it is, becomes the input. -/
  | feed
  deriving DecidableEq, Repr, Inhabited

/-- What came of a step. -/
inductive StepResult
  | done
  | failed (fault : Fault)
  /-- The input has no view of the element's type. -/
  | noView
  deriving DecidableEq, Repr, Inhabited

/-- A step's result, the workload after it and what it reported. -/
structure StepRecord where
  result : StepResult
  workload : Workload
  reports : List Report
  deriving DecidableEq, Repr

namespace Workload

/-- One step.  A tensor that cannot be made or written to is not bound. -/
def step (w : Workload) : Step → StepRecord
  | .execute =>
      let reports := [Report.span ⟨w.job.kind⟩]
      match w.execute with
      | .ok () w => ⟨.done, w, reports⟩
      | .error fault w => ⟨.failed fault, w, reports⟩
  | .rebind source =>
      match source.build with
      | .ok input => ⟨.done, { w with input }, []⟩
      | .error fault => ⟨.failed fault, w, []⟩
  | .write index element =>
      match w.input.write? index element with
      | some input => ⟨.done, { w with input }, []⟩
      | none => ⟨.noView, w, []⟩
  | .feed => ⟨.done, { w with input := w.output }, []⟩

/-- The records of steps taken one after the other. -/
def steps (w : Workload) : List Step → List StepRecord
  | [] => []
  | s :: rest =>
      let record := w.step s
      record :: record.workload.steps rest

/-- The workload after a list of steps. -/
def after (w : Workload) (script : List Step) : Workload :=
  script.foldl (fun w s => (w.step s).workload) w

end Workload

/-- The record of building and using a workload. -/
structure WorkloadRun where
  started : Except Fault Workload
  steps : List StepRecord
  reports : List Report
  deriving Repr

/-- Builds the tensors, inputs first, then the workload, then takes the steps.  The first fault ends
the run before any step. -/
def Job.use (job : Job) (inputs outputs : List TensorSource) (script : List Step) : WorkloadRun :=
  let started := do
    let inputs ← inputs.mapM TensorSource.build
    let outputs ← outputs.mapM TensorSource.build
    Workload.configure job inputs outputs
  match started with
  | .error fault => { started := .error fault, steps := [], reports := [] }
  | .ok w =>
      let records := w.steps script
      { started := .ok w
        steps := records
        reports := Workload.configureReports job ++ records.flatMap StepRecord.reports }

end NeuralBackend
