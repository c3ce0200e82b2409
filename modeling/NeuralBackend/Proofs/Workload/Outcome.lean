import NeuralBackend.Proofs.Workload.Elements
import NeuralBackend.Proofs.Workload.Run

/-!
# The outcome of an execution in use

An execution reads the input as it is at that moment, and of the output nothing but its description.
So it does not matter what has happened before: two workloads for one job with one input, and with
outputs of one description, come to the same result (`Workload.step_execute_congr`).

**When it fails** there is one fault it can give, and nothing has been written yet
(`Workload.step_execute_of_not_runnable`).

**When it comes through** it would come through again, and write what is there already
(`Workload.execute_again`).

**`Workload.execution_exact`** says all this of every moment in the use of a workload.
-/

namespace NeuralBackend.Workload

variable {w w' : Workload}

/-! ## One execution -/

/-- Where an execution leads depends on the job, the input and the description of the output. -/
lemma execute_eq_ok_congr (hjob : w.job = w'.job) (hinput : w.input = w'.input)
    (hinfo : w.output.info = w'.output.info) (v : Workload) :
    w.execute = .ok () v ↔ w'.execute = .ok () v := by
  rw [execute_eq_ok_iff, execute_eq_ok_iff, hjob, hinput, hinfo]

/-- An execution right after one that came through changes nothing. -/
lemma execute_again (h : w.execute = .ok () w') : w'.execute = .ok () w' := by
  obtain ⟨hshape, htype, hjob, hinput, hinfo, himage⟩ := execute_eq_ok_iff.1 h
  rw [execute_eq_ok_iff, hjob, hinput, hinfo]
  exact ⟨hshape, htype, rfl, rfl, rfl, himage⟩

/-! ## An execution as a step -/

lemma step_execute_of_ok (h : w.execute = .ok () w') :
    w.step .execute = ⟨.done, w', [.span ⟨w.job.kind⟩]⟩ := by
  simp only [step, h]

/-- A step that does not fit fails with the one fault there is, and the workload stays as it was. -/
lemma step_execute_of_not_runnable (h : ¬w.Runnable) :
    w.step .execute = ⟨.failed w.reboundFault, w, [.span ⟨w.job.kind⟩]⟩ := by
  simp only [step, execute_of_not_runnable h]

lemma step_execute_done_iff : (w.step .execute).result = .done ↔ w.Runnable := by
  by_cases h : w.Runnable
  · obtain ⟨w', hrun⟩ := exists_execute_eq_ok_iff.2 h
    rw [step_execute_of_ok hrun]
    exact iff_of_true rfl h
  · rw [step_execute_of_not_runnable h]
    exact iff_of_false (fun hdone => by cases hdone) h

/-- The result of an execution depends on the job, the input and the description of the output, and
so does all the rest where it comes through.  Where it fails, the output is what it was before, and
that may be different. -/
lemma step_execute_congr (hjob : w.job = w'.job) (hinput : w.input = w'.input)
    (hinfo : w.output.info = w'.output.info) :
    (w.step .execute).result = (w'.step .execute).result ∧
      (w'.Runnable → w.step .execute = w'.step .execute) := by
  by_cases h : w'.Runnable
  · obtain ⟨v, hrun⟩ := exists_execute_eq_ok_iff.2 h
    have hsame : w.step .execute = w'.step .execute := by
      rw [step_execute_of_ok hrun,
        step_execute_of_ok ((execute_eq_ok_congr hjob hinput hinfo v).2 hrun), hjob]
    exact ⟨congrArg StepRecord.result hsame, fun _ => hsame⟩
  · have hw : ¬w.Runnable := by
      rintro ⟨hshape, hin, hout⟩
      exact h ⟨hinput ▸ hinfo ▸ hshape, hinput ▸ hjob ▸ hin, hinfo ▸ hjob ▸ hout⟩
    rw [step_execute_of_not_runnable hw, step_execute_of_not_runnable h, reboundFault, reboundFault,
      hjob]
    exact ⟨rfl, fun hrunnable => absurd hrunnable h⟩

/-- **Executions are exact.**  At every moment in the use of a workload an execution comes through
exactly when the input has the output's shape and the type that the job reads, and its outcome
depends on the input of that moment alone.  If it fails, a contract has been broken, which is fatal,
and the workload is as it was.  If it comes through, nothing but the elements of the output has
changed, these are the images of the input's elements and what the job is to compute of them, and to
execute once more changes nothing. -/
theorem execution_exact {job : Job} {inputs outputs : List HostTensor}
    (h : configure job inputs outputs = .ok w) (script : List Step) :
    let now := w.after script
    let record := now.step .execute
    (record.result = .done ↔
      now.input.info.shape = now.output.info.shape ∧ now.input.data.dataType = job.inputType) ∧
    (∀ script', (w.after script').input = now.input →
      ((w.after script').step .execute).result = record.result ∧
      (record.result = .done → (w.after script').step .execute = record)) ∧
    (record.result ≠ .done →
      record.workload = now ∧
      ∃ fault breach, record.result = .failed fault ∧ fault = .contractViolation breach ∧
        fault.category = .contract ∧ fault.isFatal = true) ∧
    (record.result = .done →
      record.workload.job = job ∧ record.workload.input = now.input ∧
      record.workload.output.info = now.output.info ∧
      now.input.data.MapsTo job.kernel? record.workload.output.data ∧
      job.Achieves now.input.data record.workload.output.data ∧
      record.workload.step .execute = record) := by
  intro now record
  have hkeeps : ∀ script', (w.after script').job = w.job ∧
      (w.after script').output.info = w.output.info := after_keeps w
  obtain ⟨hjob, hinfo⟩ := hkeeps script
  obtain ⟨input, output, rfl, rfl, -, hout, -, rfl⟩ := configure_eq_ok_iff.1 h
  refine ⟨?_, fun script' hinput => ?_, fun hfailed => ?_, fun hdone => ?_⟩
  · have hreads : now.job.inputType = job.inputType := congrArg Job.inputType hjob
    have hwrites : now.output.info.dataType = now.job.outputType := by
      rw [hjob, hinfo]
      exact hout
    rw [step_execute_done_iff, ← now.input.dataType_eq, ← hreads]
    exact ⟨fun ⟨hshape, hin, _⟩ => ⟨hshape, hin⟩, fun ⟨hshape, hin⟩ => ⟨hshape, hin, hwrites⟩⟩
  · obtain ⟨hjob', hinfo'⟩ := hkeeps script'
    have hcongr := step_execute_congr (hjob'.trans hjob.symm) hinput (hinfo'.trans hinfo.symm)
    exact ⟨hcongr.1, fun hdone => hcongr.2 (step_execute_done_iff.1 hdone)⟩
  · have hrecord : record = _ := step_execute_of_not_runnable (mt step_execute_done_iff.2 hfailed)
    rw [hrecord]
    exact ⟨rfl, _, _, rfl, rfl, rfl, rfl⟩
  · obtain ⟨w', hrun⟩ := exists_execute_eq_ok_iff.2 (step_execute_done_iff.1 hdone)
    obtain ⟨-, -, hjob', hinput, hinfo', himage⟩ := execute_eq_ok_iff.1 hrun
    have hrecord : record = _ := step_execute_of_ok hrun
    have hagain := step_execute_of_ok (execute_again hrun)
    rw [hrecord]
    rw [hjob'] at hagain
    rw [hjob] at himage
    exact ⟨hjob'.trans hjob, hinput, hinfo', Job.mapsTo_of_image? himage,
      Job.achieves_of_image? himage, hagain⟩

/-- A floor that has been given halves fails and leaves everything as it is.  Given its first input
again, it runs as it would have at the start. -/
theorem execution_exact_of_halves :
    let input : HostTensor :=
      ⟨⟨⟨[2]⟩, .float32, {}⟩, .float32 [⟨0x3fc00000⟩, ⟨0xbfc00000⟩], rfl, rfl⟩
    let output : HostTensor := ⟨⟨⟨[2]⟩, .float32, {}⟩, .float32 [⟨0⟩, ⟨0⟩], rfl, rfl⟩
    let halves : Step := .rebind (.zeros { shape := ⟨[2]⟩, dataType := .float16 })
    let back : Step := .rebind (.declared input.info input.data)
    ∃ w, configure .floor [input] [output] = .ok w ∧
      ((w.after [halves]).step .execute).result =
        .failed (.contractViolation (.reboundStorage "NeonFloorFloat32Workload")) ∧
      ((w.after [halves]).step .execute).workload = w.after [halves] ∧
      (w.after [halves, .execute, back]).step .execute = w.step .execute ∧
      ∃ result, w.execute = .ok () result ∧
        input.data.MapsTo Job.floor.kernel? result.output.data ∧
        result.execute = .ok () result := by
  intro input output halves back
  have hbuilt : configure .floor [input] [output] = .ok { job := .floor, input, output } := rfl
  obtain ⟨-, -, hfailed, -⟩ := execution_exact hbuilt [halves]
  obtain ⟨hdone, hsame, -, himages⟩ := execution_exact hbuilt []
  have hdone := hdone.2 ⟨rfl, rfl⟩
  obtain ⟨result, hrun⟩ := exists_execute_eq_ok_iff.2 (step_execute_done_iff.1 hdone)
  obtain ⟨-, -, -, hmaps, -, -⟩ := himages hdone
  rw [step_execute_of_ok hrun] at hmaps
  obtain ⟨-, hback⟩ := hsame [halves, .execute, back] rfl
  exact ⟨_, hbuilt, by decide, (hfailed (by decide)).1, hback hdone, result, hrun, hmaps,
    execute_again hrun⟩

end NeuralBackend.Workload
