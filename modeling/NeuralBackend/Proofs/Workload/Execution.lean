import NeuralBackend.Proofs.Sequence
import NeuralBackend.Workload.Basic

/-!
# What one execution does

The laws of the operations a workload is made of, stated once so that nothing later opens them.

**Tensors.**  A tensor is its description and its data (`HostTensor.ext`), every tensor is made by
some recipe (`TensorSource.build_declared`), and tensors of one shape hold equally many elements
(`HostTensor.length_eq_of_shape_eq`).

**Work.**  What is done to a workload is followed step by step: `Workload.run_bind_of_ok` goes on
from the workload that a step has left, and `Workload.run_bind_of_error` stops with the one that a
failure has left.  A kernel changes the output and nothing else, and only when it has a view of both
tensors (`Workload.run_applyKernel_of_some`, `Workload.run_applyKernel_of_none`).  It writes as far
as the input reaches, so on an output of the input's length nothing of the old output is left
(`Kernel.writeOver_eq_map`).

**Workloads.**  `Workload.configure_eq_ok_iff` says when a workload is built and which one.
`Workload.execute_eq_ok_iff` says when an execution comes through and what it leaves behind, and
`Workload.execute_eq_error_iff` says the same of one that fails: it has come to nothing that writes.
With the types of the job and one shape there is nothing left to fail (`Workload.exists_run`).
-/

namespace NeuralBackend

/-! ## Tensors -/

namespace HostTensor

/-- A tensor is its description and its data. -/
@[ext] lemma ext {x y : HostTensor} (hinfo : x.info = y.info) (hdata : x.data = y.data) :
    x = y := by
  cases x
  cases y
  subst hinfo hdata
  rfl

/-- Tensors of one shape hold equally many elements. -/
lemma length_eq_of_shape_eq {x y : HostTensor} (h : x.info.shape = y.info.shape) :
    x.data.length = y.data.length := by
  have hx : y.info.shape.elementCount? = some x.data.length := by
    rw [← h]
    exact x.elementCount_eq
  exact Option.some.inj (hx.symm.trans y.elementCount_eq)

/-- The parts of a tensor make that tensor again. -/
lemma make_self (t : HostTensor) : make t.info t.data = .ok t := by
  rw [make, dif_pos t.dataType_eq]
  split
  · next h =>
    rw [t.elementCount_eq] at h
    cases h
  · next count h =>
    have hcount : count = t.data.length := Option.some.inj (h.symm.trans t.elementCount_eq)
    rw [dif_pos hcount]

end HostTensor

/-- Every tensor is made by some recipe. -/
lemma TensorSource.build_declared (t : HostTensor) : (declared t.info t.data).build = .ok t :=
  t.make_self

/-! ## Views -/

namespace HostTensor

variable {α : Type} {view : TensorView α} {t : HostTensor} (f : List α → List α)
  (hf : ∀ xs, (f xs).length = xs.length)

lemma exists_update? {xs : List α} (h : view.read? t.data = some xs) :
    ∃ t', t.update? view f hf = some t' ∧ t'.info = t.info ∧ t'.data = view.pack (f xs) := by
  unfold update?
  split
  · next hnone => cases hnone.symm.trans h
  · next ys hys =>
    obtain rfl : ys = xs := Option.some.inj (hys.symm.trans h)
    exact ⟨_, rfl, rfl, rfl⟩

lemma update?_eq_none (h : view.read? t.data = none) : t.update? view f hf = none := by
  unfold update?
  split
  · rfl
  · next ys hys => cases hys.symm.trans h

end HostTensor

/-- Over an output of the input's length a kernel leaves nothing of what was there. -/
lemma Kernel.writeOver_eq_map {α β : Type} (kernel : α → β) {input : List α} {output : List β}
    (h : input.length = output.length) : writeOver kernel input output = input.map kernel := by
  induction input generalizing output with
  | nil =>
      rw [writeOver_nil, List.eq_nil_of_length_eq_zero h.symm]
      rfl
  | cons x xs ih =>
      cases output with
      | nil => cases h
      | cons y ys => rw [writeOver, List.map_cons, ih (Nat.succ.inj h)]

/-! ## Jobs -/

namespace Job

/-- A job has images for exactly the data of the type it reads. -/
lemma exists_image?_iff {job : Job} {data : TensorData} :
    (∃ image, job.image? data = some image) ↔ data.dataType = job.inputType := by
  cases job <;> cases data <;> simp [image?, inputType, TensorData.dataType]

end Job

/-! ## Workloads -/

namespace Workload

/-- A workload is built from exactly one input and one output, of the job's types and of one
shape. -/
theorem configure_eq_ok_iff {job : Job} {inputs outputs : List HostTensor} {w : Workload} :
    configure job inputs outputs = .ok w ↔
      ∃ input output, inputs = [input] ∧ outputs = [output] ∧
        input.info.dataType = job.inputType ∧ output.info.dataType = job.outputType ∧
        input.info.shape = output.info.shape ∧ w = { job, input, output } := by
  constructor
  · intro h
    unfold configure at h
    split at h
    · next input output =>
      simp only [requireType, requireSameShape, bind_ok_iff, test_ok_iff, pure_ok_iff] at h
      obtain ⟨_, hin, _, hout, _, hshape, rfl⟩ := h
      exact ⟨input, output, rfl, rfl, hin, hout, hshape, rfl⟩
    · cases h
  · rintro ⟨input, output, rfl, rfl, hin, hout, hshape, rfl⟩
    simp only [configure, requireType, requireSameShape, bind_ok_iff, test_ok_iff, pure_ok_iff]
    exact ⟨(), hin, (), hout, (), hshape, trivial⟩

/-! ## Work on a workload -/

section Work

variable {α β : Type} {w w' : Workload}

lemma run_bind_of_ok {x : Work α} {f : α → Work β} {a : α} (h : x.run w = .ok a w') :
    (x >>= f).run w = (f a).run w' := by
  change EStateM.bind x f w = f a w'
  unfold EStateM.bind
  rw [show x w = _ from h]

lemma run_bind_of_error {x : Work α} {f : α → Work β} {fault : Fault}
    (h : x.run w = .error fault w') : (x >>= f).run w = .error fault w' := by
  change EStateM.bind x f w = _
  unfold EStateM.bind
  rw [show x w = _ from h]

lemma run_get : (get : Work Workload).run w = .ok w w := rfl

lemma run_requireBoundShapes_of_eq (h : w.input.info.shape = w.output.info.shape) :
    requireBoundShapes.run w = .ok () w := by
  rw [requireBoundShapes, run_bind_of_ok run_get, if_pos h]
  rfl

lemma run_requireBoundShapes_of_ne (h : w.input.info.shape ≠ w.output.info.shape) :
    requireBoundShapes.run w = .error w.reboundFault w := by
  rw [requireBoundShapes, run_bind_of_ok run_get, if_neg h]
  rfl

section Kernel

variable {source : TensorView α} {target : TensorView β} (kernel : α → β)

/-- With views of input and output, a kernel changes the output alone. -/
lemma run_applyKernel_of_some {xs : List α} {ys : List β}
    (hin : source.read? w.input.data = some xs) (hout : target.read? w.output.data = some ys) :
    ∃ output, (applyKernel source target kernel).run w = .ok () { w with output } ∧
      output.info = w.output.info ∧ output.data = target.pack (Kernel.writeOver kernel xs ys) := by
  obtain ⟨output, hupdate, hinfo, hdata⟩ := HostTensor.exists_update?
    (Kernel.writeOver kernel xs) (Kernel.length_writeOver kernel xs) hout
  refine ⟨output, ?_, hinfo, hdata⟩
  have hread : (demand (source.read? w.input.data)).run w = .ok xs w := by
    rw [hin]
    rfl
  have hwrite : (demand (w.output.update? target (Kernel.writeOver kernel xs)
      (Kernel.length_writeOver kernel xs))).run w = .ok output w := by
    rw [hupdate]
    rfl
  rw [applyKernel, run_bind_of_ok run_get, run_bind_of_ok hread, run_bind_of_ok hwrite]
  rfl

/-- Without one of the views it gives up, and it has not written anything. -/
lemma run_applyKernel_of_none
    (h : source.read? w.input.data = none ∨ target.read? w.output.data = none) :
    (applyKernel source target kernel).run w = .error w.reboundFault w := by
  rw [applyKernel, run_bind_of_ok run_get]
  cases hin : source.read? w.input.data with
  | none => exact run_bind_of_error rfl
  | some xs =>
      have hout := h.resolve_left (by simp [hin])
      have hread : (demand (some xs)).run w = .ok xs w := rfl
      have hwrite : (demand (w.output.update? target (Kernel.writeOver kernel xs)
          (Kernel.length_writeOver kernel xs))).run w = .error w.reboundFault w := by
        rw [HostTensor.update?_eq_none _ _ hout]
        rfl
      rw [run_bind_of_ok hread]
      exact run_bind_of_error hwrite

end Kernel

end Work

/-- Each job is run by one kernel, between views of its two types, and the kernel makes its
images. -/
lemma exists_kernel (job : Job) :
    ∃ (α β : Type) (source : TensorView α) (target : TensorView β) (kernel : α → β),
      runKernel job = applyKernel source target kernel ∧
        source.dataType = job.inputType ∧ target.dataType = job.outputType ∧
        ∀ xs, job.image? (source.pack xs) = some (target.pack (xs.map kernel)) := by
  cases job with
  | activation p => exact ⟨_, _, .float32, .float32, _, rfl, rfl, rfl, fun _ => rfl⟩
  | floor => exact ⟨_, _, .float32, .float32, _, rfl, rfl, rfl, fun _ => rfl⟩
  | halfToSingle => exact ⟨_, _, .float16, .float32, _, rfl, rfl, rfl, fun _ => rfl⟩
  | singleToHalf => exact ⟨_, _, .float32, .float16, _, rfl, rfl, rfl, fun _ => rfl⟩

/-! ## Executions -/

/-- Input and output have one shape and the types of the job. -/
structure Runnable (w : Workload) : Prop where
  shape_eq : w.input.info.shape = w.output.info.shape
  inputType_eq : w.input.info.dataType = w.job.inputType
  outputType_eq : w.output.info.dataType = w.job.outputType

variable {w w' : Workload} {fault : Fault}

/-- Where input and output fit, the output holds the images of the input's elements afterwards,
under the description it had, and all else is as before. -/
lemma Runnable.exists_execute (h : w.Runnable) :
    ∃ output, w.execute = .ok () { w with output } ∧ output.info = w.output.info ∧
      w.job.image? w.input.data = some output.data := by
  obtain ⟨α, β, source, target, kernel, hrun, hsource, htarget, himage⟩ := exists_kernel w.job
  obtain ⟨xs, hxs⟩ := source.exists_eq_pack
    (w.input.dataType_eq.symm.trans (h.inputType_eq.trans hsource.symm))
  obtain ⟨ys, hys⟩ := target.exists_eq_pack
    (w.output.dataType_eq.symm.trans (h.outputType_eq.trans htarget.symm))
  -- one shape is one number of elements, so that none of the old ones is left
  have hlength : xs.length = ys.length := by
    have hlengths := HostTensor.length_eq_of_shape_eq h.shape_eq
    rwa [hxs, hys, source.length_pack, target.length_pack] at hlengths
  obtain ⟨output, hkernel, hinfo, hdata⟩ := run_applyKernel_of_some kernel
    (source.read?_eq_some_iff.2 hxs) (target.read?_eq_some_iff.2 hys)
  refine ⟨output, ?_, hinfo, ?_⟩
  · rw [execute, run_bind_of_ok (run_requireBoundShapes_of_eq h.shape_eq), hrun]
    exact hkernel
  · rw [hxs, himage, hdata, Kernel.writeOver_eq_map kernel hlength]

/-- Where they do not, the execution gives up before anything is written. -/
lemma execute_of_not_runnable (h : ¬w.Runnable) : w.execute = .error w.reboundFault w := by
  unfold execute
  by_cases hshape : w.input.info.shape = w.output.info.shape
  · obtain ⟨α, β, source, target, kernel, hrun, hsource, htarget, -⟩ := exists_kernel w.job
    rw [run_bind_of_ok (run_requireBoundShapes_of_eq hshape), hrun]
    refine run_applyKernel_of_none kernel ?_
    cases hin : source.read? w.input.data with
    | none => exact .inl rfl
    | some xs =>
        cases hout : target.read? w.output.data with
        | none => exact .inr rfl
        | some ys =>
            refine absurd ⟨hshape, ?_, ?_⟩ h
            · rw [w.input.dataType_eq, source.read?_eq_some_iff.1 hin, source.dataType_pack,
                hsource]
            · rw [w.output.dataType_eq, target.read?_eq_some_iff.1 hout, target.dataType_pack,
                htarget]
  · exact run_bind_of_error (run_requireBoundShapes_of_ne hshape)

/-- **One execution that comes through.**  It does exactly when the input has the output's shape and
the types are the job's; then the output holds the images of the input's elements, under the
description it had, and all else is as before. -/
theorem execute_eq_ok_iff :
    w.execute = .ok () w' ↔
      w.input.info.shape = w.output.info.shape ∧ w.output.info.dataType = w.job.outputType ∧
        w'.job = w.job ∧ w'.input = w.input ∧ w'.output.info = w.output.info ∧
        w.job.image? w.input.data = some w'.output.data := by
  constructor
  · intro hok
    by_cases h : w.Runnable
    · obtain ⟨output, hexecute, hinfo, himage⟩ := h.exists_execute
      cases hexecute.symm.trans hok
      exact ⟨h.shape_eq, h.outputType_eq, rfl, rfl, hinfo, himage⟩
    · cases (execute_of_not_runnable h).symm.trans hok
  · rintro ⟨hshape, hout, hjob, hinput, hinfo, himage⟩
    have hin : w.input.info.dataType = w.job.inputType :=
      w.input.dataType_eq.trans (Job.exists_image?_iff.1 ⟨_, himage⟩)
    obtain ⟨output, hexecute, hinfo', himage'⟩ :=
      Runnable.exists_execute ⟨hshape, hin, hout⟩
    have houtput : output = w'.output := HostTensor.ext (hinfo'.trans hinfo.symm)
      (Option.some.inj (himage'.symm.trans himage))
    rw [hexecute, houtput, ← hjob, ← hinput]

/-- **One execution that fails.**  It does exactly when shape or types do not fit; then there is one
fault it can give, and the workload is as it was. -/
theorem execute_eq_error_iff :
    w.execute = .error fault w' ↔ ¬w.Runnable ∧ fault = w.reboundFault ∧ w' = w := by
  constructor
  · intro hfailed
    by_cases h : w.Runnable
    · obtain ⟨output, hexecute, -⟩ := h.exists_execute
      cases hexecute.symm.trans hfailed
    · cases (execute_of_not_runnable h).symm.trans hfailed
      exact ⟨h, rfl, rfl⟩
  · rintro ⟨h, rfl, rfl⟩
    exact execute_of_not_runnable h

/-- An execution comes through exactly when the shapes are equal and the types are those of the
job. -/
theorem exists_execute_eq_ok_iff : (∃ w', w.execute = .ok () w') ↔ w.Runnable := by
  constructor
  · rintro ⟨w', hok⟩
    obtain ⟨hshape, hout, -, -, -, himage⟩ := execute_eq_ok_iff.1 hok
    exact ⟨hshape, w.input.dataType_eq.trans (Job.exists_image?_iff.1 ⟨_, himage⟩), hout⟩
  · intro h
    obtain ⟨output, hexecute, -⟩ := h.exists_execute
    exact ⟨_, hexecute⟩

/-- A job is built on an input and an output of its types and of one shape, and then it runs. -/
theorem exists_run {job : Job} {input output : HostTensor}
    (hin : input.info.dataType = job.inputType) (hout : output.info.dataType = job.outputType)
    (hshape : input.info.shape = output.info.shape) :
    ∃ w w', configure job [input] [output] = .ok w ∧ w.execute = .ok () w' := by
  have hbuilt : configure job [input] [output] = .ok { job, input, output } :=
    configure_eq_ok_iff.2 ⟨input, output, rfl, rfl, hin, hout, hshape, rfl⟩
  obtain ⟨w', hrun⟩ := (exists_execute_eq_ok_iff (w := { job, input, output })).2
    ⟨hshape, hin, hout⟩
  exact ⟨_, w', hbuilt, hrun⟩

end Workload

end NeuralBackend
