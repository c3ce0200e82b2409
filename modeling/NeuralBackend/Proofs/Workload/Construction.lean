import NeuralBackend.Proofs.Kernel.Overrun
import NeuralBackend.Proofs.Workload.Outcome

/-!
# What construction reports

A workload can be asked for with any number of operands, of any types and shapes, so that several
things can be wrong at once.  This file says which of them is reported.

**The first fault.**  `Workload.FirstFault` ranks what can be wrong: the numbers of operands, the
type of the input, the type of the output, the shapes.  Each rank is only reached when nothing in
front of it is wrong, so there is one fault to report, and `Workload.configure_eq_error_iff` says
that it is the one reported.

**Operands by place.**  Once the numbers of operands have been checked, the operands are read at the
first place of their lists (`Workload.configureByPlace`).  The check in front is what keeps these
reads inside the lists (`Workload.configureByPlace_eq`).

**Whose mistake it is.**  A tensor that cannot be made, a workload that cannot be built and an
execution that fails all break a contract (`Fault.BreaksContract`), which is fatal and nothing that
a user can mend.

**`Workload.construction_decided`** puts these together.
-/

namespace NeuralBackend

/-! ## Broken contracts -/

/-- A calling program has broken a contract: trying again is no use, and no user can mend it. -/
structure Fault.BreaksContract (fault : Fault) : Prop where
  category_eq : fault.category = .contract
  isFatal_eq : fault.isFatal = true
  isUserError_eq : fault.isUserError = false

lemma Fault.breaksContract_iff {fault : Fault} :
    fault.BreaksContract ↔ fault.category = .contract := by
  constructor
  · intro h
    exact h.category_eq
  · intro h
    exact ⟨h, by simp [isFatal, h], by simp [isUserError, h]⟩

/-- A wrong type of elements, a count beyond 64 bits and a wrong number of elements are broken
contracts. -/
lemma HostTensor.breaksContract_of_make {info : TensorInfo} {data : TensorData} {fault : Fault}
    (h : make info data = .error fault) : fault.BreaksContract := by
  rw [Fault.breaksContract_iff]
  unfold make at h
  split at h
  · split at h
    · cases h
      rfl
    · split at h
      · cases h
      · cases h
        rfl
  · cases h
    rfl

/-- A count beyond 64 bits and a type without storage are broken contracts. -/
lemma HostTensor.breaksContract_of_zeros {info : TensorInfo} {fault : Fault}
    (h : zeros info = .error fault) : fault.BreaksContract := by
  rw [Fault.breaksContract_iff]
  unfold zeros at h
  split at h
  · cases h
    rfl
  · split at h
    · cases h
      rfl
    · cases h

/-- Whatever keeps a tensor from being made is a broken contract. -/
lemma TensorSource.breaksContract_of_build {source : TensorSource} {fault : Fault}
    (h : source.build = .error fault) : fault.BreaksContract := by
  cases source with
  | declared info data => exact HostTensor.breaksContract_of_make h
  | ofData shape data => exact HostTensor.breaksContract_of_make h
  | zeros info => exact HostTensor.breaksContract_of_zeros h

namespace Workload

/-- An execution fails over a tensor bound since construction, and that breaks a contract. -/
lemma breaksContract_of_execute {w w' : Workload} {fault : Fault}
    (h : w.execute = .error fault w') : fault.BreaksContract := by
  obtain ⟨-, rfl, -⟩ := execute_eq_error_iff.1 h
  rw [Fault.breaksContract_iff]
  rfl

/-! ## The first fault -/

/-- What is wrong with the operands of a workload.  Where several things are, this is the first of
them, in the order: their numbers, the type of the input, the type of the output, the shapes. -/
inductive FirstFault (job : Job) : List HostTensor → List HostTensor → Fault → Prop
  | operandCount {inputs outputs : List HostTensor}
      (h : ¬(inputs.length = 1 ∧ outputs.length = 1)) :
      FirstFault job inputs outputs (.operandCount job.name 1 1 inputs.length outputs.length)
  | inputType {input output : HostTensor} (h : input.info.dataType ≠ job.inputType) :
      FirstFault job [input] [output]
        (.dataTypeMismatch job.name job.inputType input.info.dataType)
  | outputType {input output : HostTensor} (hin : input.info.dataType = job.inputType)
      (h : output.info.dataType ≠ job.outputType) :
      FirstFault job [input] [output]
        (.dataTypeMismatch job.name job.outputType output.info.dataType)
  | shapes {input output : HostTensor} (hin : input.info.dataType = job.inputType)
      (hout : output.info.dataType = job.outputType) (h : input.info.shape ≠ output.info.shape) :
      FirstFault job [input] [output]
        (.contractViolation (.shapeMismatch job.name input.info.shape output.info.shape))

variable {job : Job} {inputs outputs : List HostTensor} {fault : Fault}

lemma FirstFault.breaksContract (h : FirstFault job inputs outputs fault) :
    fault.BreaksContract := by
  rw [Fault.breaksContract_iff]
  cases h <;> rfl

/-- Other numbers of operands than one and one are reported before anything is looked at. -/
lemma configure_of_length (h : ¬(inputs.length = 1 ∧ outputs.length = 1)) :
    configure job inputs outputs =
      .error (.operandCount job.name 1 1 inputs.length outputs.length) := by
  unfold configure
  split
  · exact absurd ⟨rfl, rfl⟩ h
  · rfl

/-- Construction fails with the first fault, and only with that. -/
lemma configure_eq_error_iff :
    configure job inputs outputs = .error fault ↔ FirstFault job inputs outputs fault := by
  by_cases hlength : inputs.length = 1 ∧ outputs.length = 1
  · obtain ⟨input, rfl⟩ := List.length_eq_one_iff.1 hlength.1
    obtain ⟨output, rfl⟩ := List.length_eq_one_iff.1 hlength.2
    simp only [configure, requireType, requireSameShape, bind_error_iff, test_ok_iff,
      test_error_iff]
    constructor
    · rintro (⟨hin, rfl⟩ | ⟨-, hin, ⟨hout, rfl⟩ | ⟨-, hout, ⟨hshape, rfl⟩ | ⟨-, -, hend⟩⟩⟩)
      · exact .inputType hin
      · exact .outputType hin hout
      · exact .shapes hin hout hshape
      · cases hend
    · intro h
      cases h with
      | operandCount h => exact absurd hlength h
      | inputType hin => exact .inl ⟨hin, rfl⟩
      | outputType hin hout => exact .inr ⟨(), hin, .inl ⟨hout, rfl⟩⟩
      | shapes hin hout hshape => exact .inr ⟨(), hin, .inr ⟨(), hout, .inl ⟨hshape, rfl⟩⟩⟩
  · rw [configure_of_length hlength, Except.error.injEq]
    constructor
    · rintro rfl
      exact .operandCount hlength
    · intro h
      cases h with
      | operandCount _ => rfl
      | inputType _ => exact absurd ⟨rfl, rfl⟩ hlength
      | outputType _ _ => exact absurd ⟨rfl, rfl⟩ hlength
      | shapes _ _ _ => exact absurd ⟨rfl, rfl⟩ hlength

/-! ## Operands by place -/

open Access

/-- Construction with the operands read at their places.  Nothing asks whether there is an operand
at the place; that is left to the check of their numbers. -/
def configureByPlace (job : Job) (inputs outputs : List HostTensor) : Access Fault Workload := do
  decided (requireOperandCount job.name 1 1 inputs.length outputs.length)
  let input ← read inputs 0
  decided (requireType job input job.inputType)
  let output ← read outputs 0
  decided (requireType job output job.outputType)
  decided (requireSameShape job input output)
  return { job, input, output }

/-- The check of the numbers of operands can stand in front of construction: it fails as
construction does. -/
lemma requireOperandCount_bind_configure :
    (requireOperandCount job.name 1 1 inputs.length outputs.length >>= fun _ =>
      configure job inputs outputs) = configure job inputs outputs := by
  by_cases hlength : inputs.length = 1 ∧ outputs.length = 1
  · rw [requireOperandCount, if_pos ⟨hlength.1.symm, hlength.2.symm⟩]
    rfl
  · rw [requireOperandCount, if_neg fun h => hlength ⟨h.1.symm, h.2.symm⟩,
      configure_of_length hlength]
    rfl

/-- The reads never overrun, and construction decides what it decides on lists of one operand. -/
lemma configureByPlace_eq :
    configureByPlace job inputs outputs = decided (configure job inputs outputs) := by
  rw [← requireOperandCount_bind_configure]
  refine decided_bind fun _ hcount => ?_
  -- the reads are only reached with one operand in each list
  obtain ⟨hinputs, houtputs⟩ := test_ok_iff.1 hcount
  obtain ⟨input, rfl⟩ := List.length_eq_one_iff.1 hinputs.symm
  obtain ⟨output, rfl⟩ := List.length_eq_one_iff.1 houtputs.symm
  have hinput : [input][0]? = some input := rfl
  have houtput : [output][0]? = some output := rfl
  rw [read_bind hinput]
  refine decided_bind fun _ _ => ?_
  rw [read_bind houtput]
  exact decided_bind fun _ _ => decided_bind fun _ _ => rfl

/-- **Construction decides by its contract.**  A workload is built exactly when there is one input
and one output, they have the types that the job reads and writes, and their lists of dimensions are
equal.  Otherwise the first thing wrong is reported, with what was expected and what there is.  No
operand is read that is not there.  And whatever keeps a tensor from being made, a workload from
being built or an execution from coming through is a broken contract. -/
theorem construction_decided (job : Job) (inputs outputs : List HostTensor) :
    ((∃ w, configure job inputs outputs = .ok w) ↔
      ∃ input output, inputs = [input] ∧ outputs = [output] ∧
        input.info.dataType = job.inputType ∧ output.info.dataType = job.outputType ∧
        input.info.shape = output.info.shape) ∧
    (∀ fault, configure job inputs outputs = .error fault ↔ FirstFault job inputs outputs fault) ∧
    configureByPlace job inputs outputs = decided (configure job inputs outputs) ∧
    ∀ fault : Fault,
      (∃ source : TensorSource, source.build = .error fault) ∨
        configure job inputs outputs = .error fault ∨
        (∃ w w' : Workload, w.execute = .error fault w') →
      fault.BreaksContract := by
  refine ⟨?_, fun fault => configure_eq_error_iff, configureByPlace_eq, fun fault hfault => ?_⟩
  · constructor
    · rintro ⟨w, hbuilt⟩
      obtain ⟨input, output, hinputs, houtputs, hin, hout, hshape, -⟩ :=
        configure_eq_ok_iff.1 hbuilt
      exact ⟨input, output, hinputs, houtputs, hin, hout, hshape⟩
    · rintro ⟨input, output, hinputs, houtputs, hin, hout, hshape⟩
      exact ⟨_, configure_eq_ok_iff.2 ⟨input, output, hinputs, houtputs, hin, hout, hshape, rfl⟩⟩
  · rcases hfault with ⟨source, hbuild⟩ | hbuilt | ⟨w, w', hrun⟩
    · exact TensorSource.breaksContract_of_build hbuild
    · exact (configure_eq_error_iff.1 hbuilt).breaksContract
    · exact breaksContract_of_execute hrun

/-- A narrowing that is given halves to read and singles of another shape to write has three things
wrong with it, and the type of the input is reported.  Without an output the numbers are. -/
theorem construction_decided_of_swapped :
    let halves : HostTensor := ⟨⟨⟨[2]⟩, .float16, {}⟩, .float16 [⟨0⟩, ⟨0x3c00⟩], rfl, rfl⟩
    let singles : HostTensor := ⟨⟨⟨[1]⟩, .float32, {}⟩, .float32 [⟨0⟩], rfl, rfl⟩
    let mismatch : Fault := .dataTypeMismatch "NeonConvertFp32ToFp16Workload" .float32 .float16
    let missing : Fault := .operandCount "NeonConvertFp32ToFp16Workload" 1 1 1 0
    configure .singleToHalf [halves] [singles] = .error mismatch ∧ mismatch.BreaksContract ∧
      configure .singleToHalf [halves] [] = .error missing ∧ missing.BreaksContract := by
  intro halves singles mismatch missing
  obtain ⟨-, hswapped, -, hbreaks⟩ := construction_decided .singleToHalf [halves] [singles]
  obtain ⟨-, hlacking, -, hbreaks'⟩ := construction_decided .singleToHalf [halves] []
  have htype : configure .singleToHalf [halves] [singles] = .error mismatch :=
    (hswapped mismatch).2 (.inputType (by decide))
  have hcount : configure .singleToHalf [halves] [] = .error missing :=
    (hlacking missing).2 (.operandCount (by decide))
  exact ⟨htype, hbreaks mismatch (.inr (.inl htype)), hcount,
    hbreaks' missing (.inr (.inl hcount))⟩

end Workload

end NeuralBackend
