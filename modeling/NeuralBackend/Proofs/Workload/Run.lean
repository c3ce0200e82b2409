import NeuralBackend.Proofs.Workload.Elements
import NeuralBackend.Proofs.Workload.Execution

/-!
# What a whole run leaves in the output

Between two executions the input of a workload may be replaced, overwritten or fed from the output,
in any order and as often as one likes, and executions may fail.  This file says what the output
holds at the end of it.

* `Workload.readBy?` is the data a step reads: only an execution that comes through reads anything.
* `Workload.lastRead?` is the data read last in a script.
* `Job.Leaves` ties the output at the end of a stretch to the output at its beginning and to what
  was read in between.  It is the invariant of the development: `Workload.step_leaves` proves it of
  one step, `Job.Leaves.trans` puts two stretches together, and `Workload.after_leaves` follows by
  induction on the script.

Every tensor there is can be bound on the way (`Workload.step_rebind`), and what fails leaves the
workload as it was (`Workload.step_of_not_done`).  The result is **`Workload.output_after_run`**:
the output holds the images of what was read last, all of them and nothing else, or what it held at
construction if nothing was ever read.
-/

namespace NeuralBackend

/-! ## What a stretch of steps leaves -/

/-- The output data after a stretch of steps: the image of what the stretch read last, or the data
before it if it read nothing. -/
def Job.Leaves (job : Job) (before : TensorData) (read : Option TensorData) (after : TensorData) :
    Prop :=
  match read with
  | some data => job.image? data = some after
  | none => after = before

/-- What the second of two stretches read counts before what the first one read. -/
lemma Job.Leaves.trans {job : Job} {a b c : TensorData} {read read' : Option TensorData}
    (h : job.Leaves a read b) (h' : job.Leaves b read' c) : job.Leaves a (read'.or read) c := by
  cases read' with
  | some data => exact h'
  | none =>
      have hc : c = b := h'
      rw [hc]
      exact h

namespace Workload

/-- The data a step reads: that of the input, when the step is an execution that comes through. -/
def readBy? (w : Workload) : Step → Option TensorData
  | .execute =>
      match w.execute with
      | .ok _ _ => some w.input.data
      | .error _ _ => none
  | _ => none

/-- The data read last in a script; a later execution counts before an earlier one. -/
def lastRead? (w : Workload) : List Step → Option TensorData
  | [] => none
  | s :: rest => ((w.step s).workload.lastRead? rest).or (w.readBy? s)

/-! ## One step -/

/-- A step is an execution that comes through, or it replaces at most the input. -/
lemma step_cases (w : Workload) (s : Step) :
    (∃ w', s = .execute ∧ w.execute = .ok () w' ∧ (w.step s).workload = w') ∨
      (w.readBy? s = none ∧ ∃ input, (w.step s).workload = { w with input }) := by
  cases s with
  | execute =>
      cases h : w.execute with
      | ok _ w' => exact .inl ⟨w', rfl, rfl, by simp only [step, h]⟩
      | error fault w' =>
          obtain ⟨-, -, rfl⟩ := execute_eq_error_iff.1 h
          exact .inr ⟨by simp only [readBy?, h], w'.input, by simp only [step, h]⟩
  | rebind source =>
      refine .inr ⟨rfl, ?_⟩
      cases h : source.build with
      | ok input => exact ⟨input, by simp only [step, h]⟩
      | error fault => exact ⟨w.input, by simp only [step, h]⟩
  | write index element =>
      refine .inr ⟨rfl, ?_⟩
      cases h : w.input.write? index element with
      | some input => exact ⟨input, by simp only [step, h]⟩
      | none => exact ⟨w.input, by simp only [step, h]⟩
  | feed => exact .inr ⟨rfl, w.output, rfl⟩

/-- Any tensor at all can become the input. -/
theorem step_rebind (w : Workload) (t : HostTensor) :
    w.step (.rebind (.declared t.info t.data)) = ⟨.done, { w with input := t }, []⟩ := by
  simp only [step, TensorSource.build_declared]

/-- A step that is not done leaves the workload as it was. -/
lemma step_of_not_done {w : Workload} {s : Step} (h : (w.step s).result ≠ .done) :
    (w.step s).workload = w := by
  cases s with
  | execute =>
      cases hrun : w.execute with
      | ok _ w' => exact absurd (by simp only [step, hrun]) h
      | error fault w' =>
          obtain ⟨-, -, rfl⟩ := execute_eq_error_iff.1 hrun
          simp only [step, hrun]
  | rebind source =>
      cases hbuild : source.build with
      | ok input => exact absurd (by simp only [step, hbuild]) h
      | error fault => simp only [step, hbuild]
  | write index element =>
      cases hwrite : w.input.write? index element with
      | some input => exact absurd (by simp only [step, hwrite]) h
      | none => simp only [step, hwrite]
  | feed => exact absurd rfl h

/-- No step changes the job or the description of the output. -/
lemma step_keeps (w : Workload) (s : Step) :
    (w.step s).workload.job = w.job ∧ (w.step s).workload.output.info = w.output.info := by
  rcases w.step_cases s with ⟨w', -, hexec, hw'⟩ | ⟨-, input, hw'⟩
  · obtain ⟨-, -, hjob, -, hinfo, -⟩ := execute_eq_ok_iff.1 hexec
    rw [hw']
    exact ⟨hjob, hinfo⟩
  · rw [hw']
    exact ⟨rfl, rfl⟩

/-- **One step.**  The output is written only by an execution that comes through, and then whole. -/
lemma step_leaves (w : Workload) (s : Step) :
    w.job.Leaves w.output.data (w.readBy? s) (w.step s).workload.output.data := by
  rcases w.step_cases s with ⟨w', rfl, hexec, hw'⟩ | ⟨hread, input, hw'⟩
  · obtain ⟨-, -, -, -, -, himage⟩ := execute_eq_ok_iff.1 hexec
    have hread : w.readBy? .execute = some w.input.data := by simp only [readBy?, hexec]
    rw [hread, hw']
    exact himage
  · rw [hread, hw']
    rfl

/-! ## A whole run -/

lemma after_cons (w : Workload) (s : Step) (rest : List Step) :
    w.after (s :: rest) = (w.step s).workload.after rest := rfl

lemma after_append (w : Workload) (script script' : List Step) :
    w.after (script ++ script') = (w.after script).after script' := List.foldl_append

/-- The records of a run are those of its steps, each taken from where the steps before it led. -/
theorem steps_getElem? (w : Workload) (script : List Step) (i : Nat) :
    (w.steps script)[i]? = script[i]?.map (w.after (script.take i)).step := by
  induction script generalizing w i with
  | nil => rfl
  | cons s rest ih =>
      cases i with
      | zero => rfl
      | succ i => exact ih _ i

/-- No run changes the job or the description of the output. -/
lemma after_keeps (w : Workload) (script : List Step) :
    (w.after script).job = w.job ∧ (w.after script).output.info = w.output.info := by
  induction script generalizing w with
  | nil => exact ⟨rfl, rfl⟩
  | cons s rest ih =>
      obtain ⟨hjob, hinfo⟩ := w.step_keeps s
      rw [after_cons]
      exact ⟨(ih _).1.trans hjob, (ih _).2.trans hinfo⟩

/-- What a run leaves in the output follows from what it read last. -/
lemma after_leaves (w : Workload) (script : List Step) :
    w.job.Leaves w.output.data (w.lastRead? script) (w.after script).output.data := by
  induction script generalizing w with
  | nil => rfl
  | cons s rest ih =>
      have hrest := ih (w.step s).workload
      rw [(w.step_keeps s).1] at hrest
      exact (w.step_leaves s).trans hrest

/-- What a run leaves in the output has been computed from what it read last. -/
lemma after_achieves {w : Workload} {script : List Step} {data : TensorData}
    (h : w.lastRead? script = some data) :
    w.job.Achieves data (w.after script).output.data := by
  have hleaves := w.after_leaves script
  rw [h] at hleaves
  exact Job.achieves_of_image? hleaves

/-- The record of a step holds the workload that the script up to that step leads to. -/
lemma workload_of_steps {w : Workload} {script : List Step} {i : Nat} {record : StepRecord}
    (h : (w.steps script)[i]? = some record) :
    record.workload = w.after (script.take (i + 1)) ∧
      (record.result ≠ .done → record.workload = w.after (script.take i)) := by
  rw [steps_getElem?, Option.map_eq_some_iff] at h
  obtain ⟨s, hs, rfl⟩ := h
  refine ⟨?_, step_of_not_done⟩
  rw [List.take_add_one, hs, after_append]
  rfl

/-- **The output of a run.**  Whatever is done with a workload after its construction, the output
keeps the description it was bound with, and it holds the images of the data that the last execution
to come through has read, or its data at construction if none has come through.  The images are what
the job is to compute.  A step that fails leaves the workload as it was, and after any run every
tensor can still be bound. -/
theorem output_after_run {job : Job} {inputs outputs : List HostTensor} {w : Workload}
    (h : configure job inputs outputs = .ok w) (script : List Step) :
    (∃ input output, inputs = [input] ∧ outputs = [output] ∧ w.input = input ∧
      (w.after script).output.info = output.info ∧
      job.Leaves output.data (w.lastRead? script) (w.after script).output.data) ∧
    (∀ data, w.lastRead? script = some data →
      job.Achieves data (w.after script).output.data) ∧
    (∀ i record, (w.steps script)[i]? = some record →
      record.workload = w.after (script.take (i + 1)) ∧
      (record.result ≠ .done → record.workload = w.after (script.take i))) ∧
    ∀ t, w.after (script ++ [.rebind (.declared t.info t.data)]) =
      { w.after script with input := t } := by
  obtain ⟨input, output, rfl, rfl, -, -, -, rfl⟩ := configure_eq_ok_iff.1 h
  refine ⟨?_, fun data hread => after_achieves hread, fun i record => workload_of_steps, ?_⟩
  · exact ⟨input, output, rfl, rfl, rfl, (after_keeps _ script).2, after_leaves _ script⟩
  · intro t
    rw [after_append, after_cons, step_rebind]
    rfl

/-- A replaced input of another shape, a failed execution and a write to the new input leave the
result of the execution before them: `-1` and `7`, clipped to the range from zero to six.  Then `2`
and `-3` are bound, and the next execution leaves their images. -/
theorem output_after_failed_execution :
    let job := Job.activation { function := .boundedReLu, a := ⟨0x40c00000⟩ }
    let input : HostTensor :=
      ⟨⟨⟨[2]⟩, .float32, {}⟩, .float32 [⟨0xbf800000⟩, ⟨0x40e00000⟩], rfl, rfl⟩
    let output : HostTensor :=
      ⟨⟨⟨[2]⟩, .float32, {}⟩, .float32 [⟨0x41100000⟩, ⟨0x41100000⟩], rfl, rfl⟩
    let other : HostTensor :=
      ⟨⟨⟨[2]⟩, .float32, {}⟩, .float32 [⟨0x40000000⟩, ⟨0xc0400000⟩], rfl, rfl⟩
    let failed : List Step :=
      [.execute, .rebind (.zeros { shape := ⟨[1]⟩, dataType := .float32 }), .execute,
        .write 0 (.float32 ⟨0x40000000⟩)]
    let rebound := failed ++ [.rebind (.declared other.info other.data), .execute]
    ∃ w, configure job [input] [output] = .ok w ∧
      w.lastRead? failed = some input.data ∧
      (w.after failed).output.data = .float32 [⟨0⟩, ⟨0x40c00000⟩] ∧
      w.lastRead? rebound = some other.data ∧
      (w.after rebound).output.data = .float32 [⟨0x40000000⟩, ⟨0⟩] := by
  intro job input output other failed rebound
  have hbuilt : configure job [input] [output] = .ok { job, input, output } := rfl
  obtain ⟨⟨_, _, -, -, -, -, hfailed⟩, -⟩ := output_after_run hbuilt failed
  obtain ⟨⟨_, _, -, -, -, -, hrebound⟩, -⟩ := output_after_run hbuilt rebound
  have hread : lastRead? { job, input, output } failed = some input.data := by decide +kernel
  have hread' : lastRead? { job, input, output } rebound = some other.data := by decide +kernel
  have himage : job.image? input.data = some (.float32 [⟨0⟩, ⟨0x40c00000⟩]) := by decide
  have himage' : job.image? other.data = some (.float32 [⟨0x40000000⟩, ⟨0⟩]) := by decide
  rw [hread] at hfailed
  rw [hread'] at hrebound
  exact ⟨_, hbuilt, hread, Option.some.inj (hfailed.symm.trans himage), hread',
    Option.some.inj (hrebound.symm.trans himage')⟩

end Workload

end NeuralBackend
