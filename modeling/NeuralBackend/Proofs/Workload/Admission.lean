import NeuralBackend.Proofs.Kernel.Check.Elementwise
import NeuralBackend.Proofs.Support.Judgement
import NeuralBackend.Proofs.Workload.Execution

/-!
# What is supported and what can be built

A query about an activation compares shapes the way the kernel library does, up to leading ones; the
construction of a workload compares the lists of dimensions.  For single precision operands nothing
else stands in the way of either (`Backend.supports_activation_iff`,
`Workload.runs_activation_iff`), so the difference between the two comparisons is all the difference
there is.

**`Workload.activation_admission`** states both conditions.  An activation that is supported can be
built and run unless its two shapes differ by leading ones; then construction reports the two
shapes.

The other direction holds for every job.  Construction asks for one shape and for the types of the
job, and each of the queries asks for less: that about a floor looks at one type only
(`Backend.supports_floor_iff`), and those about conversions at nothing.
**`Workload.supported_of_configured`**: whatever can be built is supported.
-/

namespace NeuralBackend

variable {p : Activation}

/-- What a query about an activation asks of the types, and of the shapes up to leading ones. -/
lemma Backend.supports_activation_ok_iff {x y : TensorInfo} :
    Backend.standard.supportsOperation (.activation p x y) = .ok () ↔
      ¬(x.dataType = .quantisedAsymm8 ∧ Kernel.ActivationKernel.ofLayer p.function = .logistic) ∧
      x.dataType ∈ Kernel.floatOrQuantisedTypes ∧
      (x.dataType = .quantisedAsymm8 →
        Kernel.ActivationKernel.ofLayer p.function = .boundedRelu ∨
          Kernel.ActivationKernel.ofLayer p.function = .luBoundedRelu) ∧
      x.dataType = y.dataType ∧ x.shape.core = y.shape.core := by
  have hjudge : Backend.standard.supportsOperation (.activation p x y) = .ok () ↔
      judgeActivation p (.ofInfo x) (.ofInfo y) = .ok () := standard_query_eq_ok_iff rfl
  rw [hjudge, judgeActivation_ok_iff, Kernel.checkActivation_ok_iff,
    Kernel.Operand.sameShape_ofInfo_iff]
  rfl

/-- For single precision operands a query about an activation compares the shapes up to leading
ones. -/
lemma Backend.supports_activation_iff {x y : TensorInfo} (hx : x.dataType = .float32)
    (hy : y.dataType = .float32) :
    Backend.standard.supportsOperation (.activation p x y) = .ok () ↔
      x.shape.core = y.shape.core := by
  have hsingle : x.dataType ≠ .quantisedAsymm8 := by
    rw [hx]
    decide
  have hfloat : x.dataType ∈ Kernel.floatOrQuantisedTypes := by
    rw [hx]
    decide
  rw [supports_activation_ok_iff]
  constructor
  · rintro ⟨-, -, -, -, hshape⟩
    exact hshape
  · intro hshape
    exact ⟨fun h => hsingle h.1, hfloat, fun h => absurd h hsingle, hx.trans hy.symm, hshape⟩

namespace Workload

variable {input output : HostTensor}

/-- For single precision operands an activation is built and runs exactly when the shapes are
equal. -/
lemma runs_activation_iff (hx : input.info.dataType = .float32)
    (hy : output.info.dataType = .float32) :
    (∃ w w', configure (.activation p) [input] [output] = .ok w ∧ w.execute = .ok () w') ↔
      input.info.shape = output.info.shape := by
  constructor
  · rintro ⟨w, w', hbuilt, -⟩
    obtain ⟨_, _, ⟨⟩, ⟨⟩, -, -, hshape, -⟩ := configure_eq_ok_iff.1 hbuilt
    exact hshape
  · exact exists_run hx hy

/-- The construction of an activation reports shapes that differ. -/
lemma configure_activation_of_ne (hx : input.info.dataType = .float32)
    (hy : output.info.dataType = .float32) (h : input.info.shape ≠ output.info.shape) :
    configure (.activation p) [input] [output] = .error (.contractViolation
      (.shapeMismatch (Job.activation p).name input.info.shape output.info.shape)) := by
  have hin : requireType (.activation p) input .float32 = .ok () := if_pos hx
  have hout : requireType (.activation p) output .float32 = .ok () := if_pos hy
  have hshape : requireSameShape (.activation p) input output = .error (.contractViolation
      (.shapeMismatch (Job.activation p).name input.info.shape output.info.shape)) := if_neg h
  simp only [configure, Job.inputType, Job.outputType, hin, hout, hshape]
  rfl

/-- **Supported activations and activations that run.**  On single precision tensors the query
compares the shapes up to leading ones, and construction with the first execution compares them as
they are; shapes that differ are reported by the construction. -/
theorem activation_admission (p : Activation) (hx : input.info.dataType = .float32)
    (hy : output.info.dataType = .float32) :
    (Backend.standard.supportsOperation (.activation p input.info output.info) = .ok () ↔
      input.info.shape.core = output.info.shape.core) ∧
    ((∃ w w', configure (.activation p) [input] [output] = .ok w ∧ w.execute = .ok () w') ↔
      input.info.shape = output.info.shape) ∧
    (input.info.shape ≠ output.info.shape →
      configure (.activation p) [input] [output] = .error (.contractViolation
        (.shapeMismatch (Job.activation p).name input.info.shape output.info.shape))) :=
  ⟨Backend.supports_activation_iff hx hy, runs_activation_iff hx hy,
    configure_activation_of_ne hx hy⟩

/-- A row of two elements is supported as the output for a vector of two, and construction turns it
down. -/
theorem activation_admission_of_leading_one :
    let input : HostTensor :=
      ⟨⟨⟨[2]⟩, .float32, {}⟩, .float32 [⟨0xbf800000⟩, ⟨0x40e00000⟩], rfl, rfl⟩
    let output : HostTensor := ⟨⟨⟨[1, 2]⟩, .float32, {}⟩, .float32 [⟨0⟩, ⟨0⟩], rfl, rfl⟩
    Backend.standard.supportsOperation (.activation {} input.info output.info) = .ok () ∧
      configure (.activation {}) [input] [output] = .error (.contractViolation
        (.shapeMismatch "NeonActivationFloat32Workload" ⟨[2]⟩ ⟨[1, 2]⟩)) := by
  intro input output
  have hinput : input.info.dataType = .float32 := rfl
  have houtput : output.info.dataType = .float32 := rfl
  obtain ⟨hsupports, -, hconfigure⟩ := activation_admission {} hinput houtput
  exact ⟨hsupports.2 (by decide), hconfigure (by decide)⟩

/-- Not every supported activation can be built: a vector and a row of the same two elements. -/
theorem not_supported_imp_built :
    ¬∀ (p : Activation) (input output : HostTensor), input.info.dataType = .float32 →
      output.info.dataType = .float32 →
      Backend.standard.supportsOperation (.activation p input.info output.info) = .ok () →
      ∃ w w', configure (.activation p) [input] [output] = .ok w ∧ w.execute = .ok () w' := by
  intro h
  obtain ⟨_, _, hbuilt, -⟩ := h { function := .reLu }
    ⟨⟨⟨[2]⟩, .float32, {}⟩, .float32 [⟨0⟩, ⟨0⟩], rfl, rfl⟩
    ⟨⟨⟨[1, 2]⟩, .float32, {}⟩, .float32 [⟨0⟩, ⟨0⟩], rfl, rfl⟩ rfl rfl (by rfl)
  cases hbuilt

end Workload

/-! ## Jobs that can be built -/

/-- A job on an input and an output, as a query asks about it. -/
def Job.operation (job : Job) (x y : TensorInfo) : Operation :=
  match job with
  | .activation p => .activation p x y
  | .floor => .floor x y
  | .halfToSingle => .convertFp16ToFp32 x y
  | .singleToHalf => .convertFp32ToFp16 x y

/-- A query about a floor looks at the type of the input. -/
lemma Backend.supports_floor_iff {x y : TensorInfo} :
    Backend.standard.supportsOperation (.floor x y) = .ok () ↔ x.dataType = .float32 := by
  have hquery : Backend.standard.supportsOperation (.floor x y) =
      TypeRules.float32Only.check x.dataType := rfl
  rw [hquery]
  cases x.dataType <;>
    simp [TypeRules.check, TypeRules.rule?, TypeRules.float32Only, TypeRule.apply]

/-- A job is supported on operands of its own types and of one shape. -/
lemma Backend.supports_job {job : Job} {x y : TensorInfo} (hin : x.dataType = job.inputType)
    (hout : y.dataType = job.outputType) (hshape : x.shape = y.shape) :
    Backend.standard.supportsOperation (job.operation x y) = .ok () := by
  cases job with
  | activation p => exact (supports_activation_iff hin hout).2 (congrArg Shape.core hshape)
  | floor => exact supports_floor_iff.2 hin
  | halfToSingle => exact support_of_isConversion rfl
  | singleToHalf => exact support_of_isConversion rfl

namespace Workload

/-- **What can be built is supported.**  From whatever lists of tensors a workload is built, there
is one input and one output, and the backend of this build supports the job on them. -/
theorem supported_of_configured {job : Job} {inputs outputs : List HostTensor} {w : Workload}
    (h : configure job inputs outputs = .ok w) :
    ∃ input output, inputs = [input] ∧ outputs = [output] ∧
      Backend.standard.supportsOperation (job.operation input.info output.info) = .ok () := by
  obtain ⟨input, output, rfl, rfl, hin, hout, hshape, -⟩ := configure_eq_ok_iff.1 h
  exact ⟨input, output, rfl, rfl, Backend.supports_job hin hout hshape⟩

/-- A hyperbolic tangent from one column of two elements to another can be built, so it is
supported. -/
theorem supported_of_configured_of_column :
    let p : Activation := { function := .tanH }
    let input : HostTensor :=
      ⟨⟨⟨[2, 1]⟩, .float32, {}⟩, .float32 [⟨0x3f800000⟩, ⟨0xc0000000⟩], rfl, rfl⟩
    let output : HostTensor := ⟨⟨⟨[2, 1]⟩, .float32, {}⟩, .float32 [⟨0⟩, ⟨0⟩], rfl, rfl⟩
    (∃ w, configure (.activation p) [input] [output] = .ok w) ∧
      Backend.standard.supportsOperation (.activation p input.info output.info) = .ok () := by
  intro p input output
  have hbuilt : configure (.activation p) [input] [output] =
      .ok { job := .activation p, input, output } := rfl
  obtain ⟨_, _, ⟨⟩, ⟨⟩, hsupported⟩ := supported_of_configured hbuilt
  exact ⟨⟨_, hbuilt⟩, hsupported⟩

end Workload

end NeuralBackend
