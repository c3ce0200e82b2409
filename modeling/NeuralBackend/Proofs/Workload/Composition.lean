import NeuralBackend.Proofs.Workload.Admission
import NeuralBackend.Proofs.Workload.Binding
import NeuralBackend.Proofs.Workload.Elements
import NeuralBackend.Workload.Pipeline

/-!
# Pipelines compose

A pipeline makes every output itself, blank and of the shape of the input, so there is little left
that can fail in it.

**One stage.**  `Job.Treats` lists what can become of a tensor: the job runs on it, or its workload
is not built because the tensor has another type.  `Job.treats` says that nothing else can, and the
type of the tensor decides which of the two it is (`Job.Treats.exists_ok_iff`).  The backend knows
in advance (`Backend.supports_stage_iff`).

**All stages.**  `StageRecord.received?` is the tensor that a stage receives, and
`Backend.pipeline_getElem?` says that the records are those of the stages, each on the tensor it
receives.  What all stages before it have done to that tensor is `Backend.pipeline_received`: the
shape is that of the first input and the elements are images of its elements, under the jobs in
their order.

**`Backend.pipeline_composes`** puts these together, with the condition under which no stage fails:
the jobs fit together.
-/

namespace NeuralBackend

/-! ## One stage -/

namespace Job

/-- What can become of a job on a tensor in a pipeline.  Either way there is a blank output. -/
inductive Treats (job : Job) (x : HostTensor) : Except Fault HostTensor → Prop
  /-- The workload is built and runs. -/
  | ran {blank : HostTensor} {built finished : Workload}
      (hblank : HostTensor.zeros (job.outputInfo x) = .ok blank)
      (hbuilt : Workload.configure job [x] [blank] = .ok built)
      (hrun : built.execute = .ok () finished) : Treats job x (.ok finished.output)
  /-- The workload is not built, for the type of the tensor. -/
  | mismatched {blank : HostTensor} (htype : x.info.dataType ≠ job.inputType)
      (hblank : HostTensor.zeros (job.outputInfo x) = .ok blank)
      (hbuilt : Workload.configure job [x] [blank] =
        .error (.dataTypeMismatch job.name job.inputType x.info.dataType)) :
      Treats job x (.error (.dataTypeMismatch job.name job.inputType x.info.dataType))

variable {job : Job} {x y : HostTensor}

lemma exists_zeros? (job : Job) (count : Nat) :
    ∃ data, TensorData.zeros? count job.outputType = some data := by
  cases job <;> exact ⟨_, rfl⟩

/-- A blank output can be made, since there are as many elements as in the input. -/
lemma exists_blank (job : Job) (x : HostTensor) :
    ∃ blank, HostTensor.zeros (job.outputInfo x) = .ok blank := by
  obtain ⟨data, hdata⟩ := job.exists_zeros? x.data.length
  have hcount : (job.outputInfo x).elementCount? = some x.data.length := x.elementCount_eq
  have hlength := TensorData.length_of_zeros? hdata
  have htype := TensorData.dataType_of_zeros? hdata
  let blank : HostTensor := ⟨job.outputInfo x, data, htype.symm, hlength ▸ hcount⟩
  exact ⟨blank, HostTensor.zeros_eq_ok_iff.2 ⟨rfl, _, hcount, hdata⟩⟩

/-- A workload is not built on an input of another type, whatever the output is. -/
lemma configure_of_dataType_ne (h : x.info.dataType ≠ job.inputType) :
    Workload.configure job [x] [y] =
      .error (.dataTypeMismatch job.name job.inputType x.info.dataType) := by
  have hinput : Workload.requireType job x job.inputType =
      .error (.dataTypeMismatch job.name job.inputType x.info.dataType) := if_neg h
  simp only [Workload.configure, hinput]
  rfl

/-- **One stage.**  Nothing else can become of a tensor. -/
lemma treats (job : Job) (x : HostTensor) : job.Treats x (job.result x) := by
  obtain ⟨blank, hblank⟩ := job.exists_blank x
  have hinfo : blank.info = job.outputInfo x := (HostTensor.zeros_eq_ok_iff.1 hblank).1
  have hshape : x.info.shape = blank.info.shape := (congrArg TensorInfo.shape hinfo).symm
  have hout : blank.info.dataType = job.outputType := congrArg TensorInfo.dataType hinfo
  by_cases htype : x.info.dataType = job.inputType
  · obtain ⟨built, finished, hbuilt, hrun⟩ := Workload.exists_run htype hout hshape
    have hresult : job.result x = .ok finished.output := by
      simp only [result, hblank, hbuilt, hrun, bind, Except.bind]
      rfl
    rw [hresult]
    exact .ran hblank hbuilt hrun
  · have hbuilt := configure_of_dataType_ne (y := blank) htype
    have hresult : job.result x =
        .error (.dataTypeMismatch job.name job.inputType x.info.dataType) := by
      simp only [result, hblank, hbuilt, bind, Except.bind]
    rw [hresult]
    exact .mismatched htype hblank hbuilt

namespace Treats

variable {result : Except Fault HostTensor}

/-- The tensor comes through when it has the type that the job reads. -/
lemma exists_ok_iff (h : job.Treats x result) :
    (∃ y, result = .ok y) ↔ x.info.dataType = job.inputType := by
  cases h with
  | ran _ hbuilt _ =>
      obtain ⟨_, _, ⟨⟩, ⟨⟩, htype, -⟩ := Workload.configure_eq_ok_iff.1 hbuilt
      exact iff_of_true ⟨_, rfl⟩ htype
  | mismatched htype _ _ => exact iff_of_false (fun ⟨_, hok⟩ => by cases hok) htype

/-- A tensor that comes through has kept its shape, and its elements are the images, which are what
the job is to compute. -/
lemma of_ok (h : job.Treats x (.ok y)) :
    y.info = job.outputInfo x ∧ x.data.MapsTo job.kernel? y.data ∧
      job.Achieves x.data y.data := by
  cases h with
  | ran hblank hbuilt hrun =>
      obtain ⟨_, _, ⟨⟩, ⟨⟩, -, -, -, rfl⟩ := Workload.configure_eq_ok_iff.1 hbuilt
      obtain ⟨-, -, -, -, hinfo, himage⟩ := Workload.execute_eq_ok_iff.1 hrun
      exact ⟨hinfo.trans (HostTensor.zeros_eq_ok_iff.1 hblank).1, mapsTo_of_image? himage,
        achieves_of_image? himage⟩

end Treats

end Job

/-- Of the jobs that are not conversions, the backend supports those that run. -/
lemma Backend.supports_stage_iff {job : Job} {x : HostTensor}
    (h : job.layer.kind.isConversion = false) :
    (job.stage Backend.standard x).support = .ok () ↔ x.info.dataType = job.inputType := by
  cases job with
  | activation p =>
      have hsupport : (Job.stage (.activation p) Backend.standard x).support =
          Backend.standard.supportsOperation
            (.activation p x.info (Job.outputInfo (.activation p) x)) := rfl
      rw [hsupport]
      constructor
      · intro hok
        obtain ⟨-, -, -, htype, -⟩ := supports_activation_ok_iff.1 hok
        exact htype
      · intro htype
        exact (supports_activation_iff htype rfl).2 rfl
  | floor => exact supports_floor_iff (y := Job.outputInfo .floor x)
  | halfToSingle => cases h
  | singleToHalf => cases h

/-! ## All stages -/

/-- The jobs fit together: the first one reads elements of type `t`, and each of the others reads
what the one before it writes. -/
def Job.FitTogether : DataType → List Job → Prop
  | _, [] => True
  | t, job :: rest => t = job.inputType ∧ FitTogether job.outputType rest

/-- The tensor that stage `i` of a pipeline receives, if it gets that far: the input, or what the
stage before it has made.  The one after the last stage is the result. -/
def StageRecord.received? (input : HostTensor) (records : List StageRecord) :
    Nat → Option HostTensor
  | 0 => some input
  | i + 1 => records[i]?.bind fun record => record.result.toOption

namespace Backend

open StageRecord

variable {b : Backend} {job : Job} {rest : List Job} {x y : HostTensor}

lemma pipeline_cons_of_ok (h : job.result x = .ok y) :
    b.pipeline x (job :: rest) = job.stage b x :: b.pipeline y rest := by
  have hstage : (job.stage b x).result = .ok y := h
  simp only [pipeline, hstage]

lemma pipeline_cons_of_error {fault : Fault} (h : job.result x = .error fault) :
    b.pipeline x (job :: rest) = [job.stage b x] := by
  have hstage : (job.stage b x).result = .error fault := h
  simp only [pipeline, hstage]

/-- After a stage that came through, the others receive what they would receive without it. -/
lemma received?_cons_of_ok {record : StageRecord} {records : List StageRecord} {i : Nat}
    (h : record.result = .ok y) :
    received? x (record :: records) (i + 1) = received? y records i := by
  cases i with
  | zero => simp only [received?, List.getElem?_cons_zero, Option.bind_some, h, Except.toOption]
  | succ i => simp only [received?, List.getElem?_cons_succ]

lemma received?_singleton_of_error {record : StageRecord} {fault : Fault} {i : Nat}
    (h : record.result = .error fault) : received? x [record] (i + 1) = none := by
  cases i with
  | zero => simp only [received?, List.getElem?_cons_zero, Option.bind_some, h, Except.toOption]
  | succ i => rfl

/-- The records of a pipeline are those of its stages, each on the tensor it receives. -/
theorem pipeline_getElem? (b : Backend) (x : HostTensor) (jobs : List Job) (i : Nat) :
    (b.pipeline x jobs)[i]? =
      (received? x (b.pipeline x jobs) i).bind fun y => jobs[i]?.map fun job => job.stage b y := by
  induction jobs generalizing x i with
  | nil =>
      cases received? x (b.pipeline x []) i with
      | none => rfl
      | some y => rfl
  | cons job rest ih =>
      cases h : job.result x with
      | ok y =>
          rw [pipeline_cons_of_ok h]
          cases i with
          | zero => rfl
          | succ i =>
              rw [received?_cons_of_ok h, List.getElem?_cons_succ, List.getElem?_cons_succ, ih]
      | error fault =>
          rw [pipeline_cons_of_error h]
          cases i with
          | zero => rfl
          | succ i =>
              -- the records end with the failure, and so does what is received
              rw [received?_singleton_of_error h]
              rfl

/-- **All stages.**  What a stage receives has the shape of the first input, and its elements are
the images of the first elements under the jobs of the stages before. -/
theorem pipeline_received (b : Backend) {x : HostTensor} {jobs : List Job} {i : Nat}
    (h : received? x (b.pipeline x jobs) i = some y) :
    y.info.shape = x.info.shape ∧ x.data.MapsTo (Job.through? (jobs.take i)) y.data := by
  induction jobs generalizing x i with
  | nil =>
      cases i with
      | zero =>
          cases h
          exact ⟨rfl, .refl _⟩
      | succ i => cases h
  | cons job rest ih =>
      cases i with
      | zero =>
          cases h
          exact ⟨rfl, .refl _⟩
      | succ i =>
          have htreats := job.treats x
          cases hresult : job.result x with
          | ok z =>
              -- the rest starts from `z`, whose elements are the images under the first job
              rw [pipeline_cons_of_ok hresult, received?_cons_of_ok hresult] at h
              rw [hresult] at htreats
              obtain ⟨hinfo, hfirst, -⟩ := htreats.of_ok
              obtain ⟨hshape, hrest⟩ := ih h
              rw [hinfo] at hshape
              rw [List.take_succ_cons, Job.through?_cons]
              exact ⟨hshape, hfirst.bind hrest⟩
          | error fault =>
              rw [pipeline_cons_of_error hresult, received?_singleton_of_error hresult] at h
              cases h

/-- No stage fails when the jobs fit together. -/
theorem pipeline_ok_iff (b : Backend) (x : HostTensor) (jobs : List Job) :
    ((b.pipeline x jobs).length = jobs.length ∧
      ∀ record ∈ b.pipeline x jobs, ∃ y, record.result = .ok y) ↔
      Job.FitTogether x.info.dataType jobs := by
  induction jobs generalizing x with
  | nil => exact iff_of_true ⟨rfl, fun _ hrecord => by cases hrecord⟩ trivial
  | cons job rest ih =>
      have htreats := job.treats x
      cases hresult : job.result x with
      | ok y =>
          rw [hresult] at htreats
          have htype : y.info.dataType = job.outputType :=
            congrArg TensorInfo.dataType htreats.of_ok.1
          rw [pipeline_cons_of_ok hresult, List.length_cons, List.length_cons,
            Nat.add_right_cancel_iff, List.forall_mem_cons, Job.FitTogether, ← htype, ← ih,
            ← htreats.exists_ok_iff]
          constructor
          · rintro ⟨hlength, hfirst, hrest⟩
            exact ⟨⟨y, rfl⟩, hlength, hrest⟩
          · rintro ⟨-, hlength, hrest⟩
            exact ⟨hlength, ⟨y, hresult⟩, hrest⟩
      | error fault =>
          rw [hresult] at htreats
          rw [pipeline_cons_of_error hresult, Job.FitTogether, ← htreats.exists_ok_iff]
          refine iff_of_false (fun ⟨_, hall⟩ => ?_) fun ⟨⟨_, hok⟩, _⟩ => by cases hok
          obtain ⟨y, hok⟩ := hall _ (List.mem_singleton_self _)
          exact absurd (hresult.symm.trans hok) (by simp)

/-- **Pipelines compose.**  The stages all come through exactly when the jobs fit together.  Each
record is that of its stage on the tensor it receives; that tensor has the shape of the first input,
and its elements are the images of the first elements under the jobs before it.  In a stage the
tensor comes through exactly when it has the type that the job reads, and then its elements have
become what the job is to compute of them; when it has not, the workload is not built, and nothing
else can fail.  The backend supports an activation or a floor on a tensor exactly when the stage
comes through. -/
theorem pipeline_composes (x : HostTensor) (jobs : List Job) :
    let records := Backend.standard.pipeline x jobs
    ((records.length = jobs.length ∧ ∀ record ∈ records, ∃ y, record.result = .ok y) ↔
      Job.FitTogether x.info.dataType jobs) ∧
    (∀ i, records[i]? = (received? x records i).bind fun y =>
      jobs[i]?.map fun job => job.stage Backend.standard y) ∧
    (∀ i y, received? x records i = some y →
      y.info.shape = x.info.shape ∧ y.data.length = x.data.length ∧
      x.data.MapsTo (Job.through? (jobs.take i)) y.data) ∧
    ∀ (job : Job) (y : HostTensor),
      let record := job.stage Backend.standard y
      job.Treats y record.result ∧
      ((∃ z, record.result = .ok z) ↔ y.info.dataType = job.inputType) ∧
      (∀ z, record.result = .ok z → job.Achieves y.data z.data) ∧
      (job.layer.kind.isConversion = false →
        (record.support = .ok () ↔ ∃ z, record.result = .ok z)) := by
  refine ⟨pipeline_ok_iff _ x jobs, pipeline_getElem? _ x jobs, fun i y h => ?_,
    fun job y => ⟨job.treats y, ?_, fun z hresult => ?_, fun hkind => ?_⟩⟩
  · obtain ⟨hshape, hmaps⟩ := pipeline_received _ h
    exact ⟨hshape, hmaps.length_eq.symm, hmaps⟩
  · exact (job.treats y).exists_ok_iff
  · have htreats : job.Treats y (job.result y) := job.treats y
    rw [show job.result y = .ok z from hresult] at htreats
    exact htreats.of_ok.2.2
  · exact (supports_stage_iff hkind).trans (job.treats y).exists_ok_iff.symm

/-- A floor after a narrowing to halves comes too late: it receives `1` and `-2` as halves, its
workload is not built, and the backend has said so. -/
theorem pipeline_composes_of_late_floor :
    let x : HostTensor :=
      ⟨⟨⟨[2]⟩, .float32, {}⟩, .float32 [⟨0x3fc00000⟩, ⟨0xbfc00000⟩], rfl, rfl⟩
    let jobs : List Job := [.floor, .singleToHalf, .floor]
    let records := Backend.standard.pipeline x jobs
    ¬Job.FitTogether .float32 jobs ∧
    ∃ y record, received? x records 2 = some y ∧ y.data = .float16 [⟨0x3c00⟩, ⟨0xc000⟩] ∧
      x.data.MapsTo (Job.through? [.floor, .singleToHalf]) y.data ∧ records[2]? = some record ∧
      record.result = .error (.dataTypeMismatch "NeonFloorFloat32Workload" .float32 .float16) ∧
      record.support ≠ .ok () := by
  intro x jobs records
  obtain ⟨-, hrecord, hreceived, hstage⟩ := pipeline_composes x jobs
  obtain ⟨y, hy⟩ : ∃ y, received? x records 2 = some y := ⟨_, rfl⟩
  have hdata : y.data = .float16 [⟨0x3c00⟩, ⟨0xc000⟩] := by
    rw [← Option.some.inj hy]
    decide
  have htype : y.info.dataType = .float16 :=
    y.dataType_eq.trans (congrArg TensorData.dataType hdata)
  obtain ⟨-, -, hmaps⟩ := hreceived 2 y hy
  have hthird := hrecord 2
  rw [hy] at hthird
  obtain ⟨htreats, hruns, -, hsupport⟩ := hstage .floor y
  have hnot : ¬∃ z, (Job.stage .floor Backend.standard y).result = .ok z := by
    rw [hruns, htype]
    decide
  have hapart : ¬Job.FitTogether .float32 jobs := fun ⟨_, _, hlast, _⟩ => by cases hlast
  refine ⟨hapart, y, _, hy, hdata, hmaps, hthird, ?_, fun hok => hnot ((hsupport rfl).1 hok)⟩
  generalize (Job.stage .floor Backend.standard y).result = result at htreats hnot ⊢
  cases htreats with
  | ran => exact absurd ⟨_, rfl⟩ hnot
  | mismatched =>
      rw [htype]
      rfl

end Backend

end NeuralBackend
