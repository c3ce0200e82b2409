import NeuralBackend.Proofs.Workload.Run

/-!
# The tensors bound to a workload

The elements of a tensor fit its description: they have the declared type, there are as many as the
shape asks for, and one view shows them.  `TensorInfo.Fits` says this of a description and data that
have not been made into a tensor yet, so that it can be said of a tensor with the description it was
*given*, however often its elements have been written since.

**Tensors that are made.**  `TensorSource.info` and `TensorSource.contents?` read the description
and the elements off a recipe, and `TensorSource.build_eq_ok_iff` says that a tensor is made of
these exactly when they fit.  Writes keep the description and go to the elements one after the other
(`HostTensor.afterWrites_eq`), and none of them spoils the fit (`TensorInfo.Fits.afterWrites`).

**Tensors in use.**  A workload has one input and one output for as long as it is used.  No step
gives the output another description, and that of the input is the one bound last: `Step.binds?` is
the description that a step binds, `inputInfoAfter` that after a script
(`Workload.after_input_info`).

**`Workload.bound_tensors_fit`** joins the two.
-/

namespace NeuralBackend

/-- The data fits the description: it has elements of the declared type, as many as the shape asks
for, and exactly one of the two views. -/
structure TensorInfo.Fits (info : TensorInfo) (data : TensorData) : Prop where
  dataType_eq : info.dataType = data.dataType
  elementCount_eq : info.shape.elementCount? = some data.length
  one_view : data.float32?.isSome ≠ data.float16?.isSome

lemma TensorData.one_view (data : TensorData) : data.float32?.isSome ≠ data.float16?.isSome := by
  cases data with
  | float32 values => exact Bool.noConfusion
  | float16 values => exact Bool.noConfusion

/-! ## Making a tensor -/

namespace HostTensor

lemma fits (t : HostTensor) : t.info.Fits t.data :=
  ⟨t.dataType_eq, t.elementCount_eq, t.data.one_view⟩

lemma make_eq_ok_iff {info : TensorInfo} {data : TensorData} {t : HostTensor} :
    make info data = .ok t ↔ t.info = info ∧ t.data = data ∧ info.Fits data := by
  constructor
  · intro h
    unfold make at h
    split at h
    · next htype =>
      split at h
      · cases h
      · next count hcount =>
        split at h
        · next hlength =>
          cases h
          exact ⟨rfl, rfl, htype, hcount.trans (congrArg some hlength), data.one_view⟩
        · cases h
    · cases h
  · rintro ⟨rfl, rfl, -⟩
    exact t.make_self

lemma zeros_eq_ok_iff {info : TensorInfo} {t : HostTensor} :
    zeros info = .ok t ↔
      t.info = info ∧ ∃ count, info.elementCount? = some count ∧
        TensorData.zeros? count info.dataType = some t.data := by
  constructor
  · intro h
    unfold zeros at h
    split at h
    · cases h
    · next count hcount =>
      split at h
      · cases h
      · next data hdata =>
        cases h
        exact ⟨rfl, count, hcount, hdata⟩
  · rintro ⟨hinfo, count, hcount, hdata⟩
    unfold zeros
    split
    · next hnone =>
      rw [hcount] at hnone
      cases hnone
    · next count' hcount' =>
      obtain rfl : count = count' := Option.some.inj (hcount.symm.trans hcount')
      split
      · next hnone =>
        rw [hdata] at hnone
        cases hnone
      · next data hdata' =>
        have hsame : data = t.data := Option.some.inj (hdata'.symm.trans hdata)
        exact congrArg Except.ok (HostTensor.ext hinfo.symm hsame)

end HostTensor

namespace TensorSource

/-- The description that a recipe declares. -/
def info : TensorSource → TensorInfo
  | declared info _ => info
  | ofData shape data => { shape, dataType := data.dataType }
  | zeros info => info

/-- The elements that a recipe asks for, if there are any to be had. -/
def contents? : TensorSource → Option TensorData
  | declared _ data | ofData _ data => some data
  | zeros info => info.elementCount?.bind fun count => TensorData.zeros? count info.dataType

/-- A recipe makes the tensor with its description and its elements, exactly when these fit. -/
theorem build_eq_ok_iff {source : TensorSource} {t : HostTensor} :
    source.build = .ok t ↔
      t.info = source.info ∧ source.contents? = some t.data ∧ source.info.Fits t.data := by
  have hmake : ∀ info data, HostTensor.make info data = .ok t ↔
      t.info = info ∧ some data = some t.data ∧ info.Fits t.data := by
    intro info data
    rw [HostTensor.make_eq_ok_iff]
    constructor
    · rintro ⟨hinfo, rfl, hfits⟩
      exact ⟨hinfo, rfl, hfits⟩
    · rintro ⟨hinfo, ⟨⟩, hfits⟩
      exact ⟨hinfo, rfl, hfits⟩
  cases source with
  | declared info data => exact hmake info data
  | ofData shape data => exact hmake _ data
  | zeros info =>
      have hcontents : (zeros info).contents? = some t.data ↔
          ∃ count, info.elementCount? = some count ∧
            TensorData.zeros? count info.dataType = some t.data := Option.bind_eq_some_iff
      rw [build, HostTensor.zeros_eq_ok_iff, hcontents]
      refine and_congr_right fun hinfo => (and_iff_left_of_imp fun _ => ?_).symm
      rw [← show t.info = (zeros info).info from hinfo]
      exact t.fits

end TensorSource

/-! ## Writing elements -/

/-- The data after some writes; one through a view that there is not changes nothing. -/
def TensorData.afterWrites (data : TensorData) (writes : List (Nat × Element)) : TensorData :=
  writes.foldl (fun data write => (data.set? write.1 write.2).getD data) data

/-- The tensor after some writes. -/
def HostTensor.afterWrites (t : HostTensor) (writes : List (Nat × Element)) : HostTensor :=
  writes.foldl (fun t write => (t.write? write.1 write.2).getD t) t

namespace TensorInfo.Fits

variable {info : TensorInfo} {data : TensorData}

lemma set? (h : info.Fits data) (index : Nat) (e : Element) :
    info.Fits ((data.set? index e).getD data) := by
  cases hset : data.set? index e with
  | none => exact h
  | some data' =>
      obtain ⟨htype, hlength⟩ := TensorData.set?_keeps hset
      exact ⟨h.dataType_eq.trans htype.symm, h.elementCount_eq.trans (congrArg some hlength.symm),
        data'.one_view⟩

lemma afterWrites (h : info.Fits data) (writes : List (Nat × Element)) :
    info.Fits (data.afterWrites writes) := by
  induction writes generalizing data with
  | nil => exact h
  | cons write rest ih => exact ih (h.set? write.1 write.2)

end TensorInfo.Fits

namespace HostTensor

lemma write?_getD (t : HostTensor) (index : Nat) (e : Element) :
    ((t.write? index e).getD t).info = t.info ∧
      ((t.write? index e).getD t).data = (t.data.set? index e).getD t.data := by
  unfold write?
  split
  · next hset =>
    rw [hset]
    exact ⟨rfl, rfl⟩
  · next data hset => exact ⟨rfl, (congrArg (Option.getD · t.data) hset).symm⟩

lemma afterWrites_eq (t : HostTensor) (writes : List (Nat × Element)) :
    (t.afterWrites writes).info = t.info ∧
      (t.afterWrites writes).data = t.data.afterWrites writes := by
  induction writes generalizing t with
  | nil => exact ⟨rfl, rfl⟩
  | cons write rest ih =>
      obtain ⟨hinfo, hdata⟩ := t.write?_getD write.1 write.2
      obtain ⟨hinfo', hdata'⟩ := ih ((t.write? write.1 write.2).getD t)
      refine ⟨hinfo'.trans hinfo, hdata'.trans ?_⟩
      rw [hdata]
      rfl

end HostTensor

/-! ## Using a workload -/

/-- The description that a step binds to the input, if it binds one, when `output` describes the
output. -/
def Step.binds? (output : TensorInfo) : Step → Option TensorInfo
  | .rebind source =>
      match source.build with
      | .ok _ => some source.info
      | .error _ => none
  | .feed => some output
  | .execute | .write _ _ => none

/-- The description of the input after a script: the one bound last. -/
def inputInfoAfter (output input : TensorInfo) (script : List Step) : TensorInfo :=
  script.foldl (fun info s => (s.binds? output).getD info) input

namespace Workload

/-- A step that binds a tensor brings in its description; no other step changes that of the
input. -/
lemma step_input_info (w : Workload) (s : Step) :
    (w.step s).workload.input.info = (s.binds? w.output.info).getD w.input.info := by
  cases s with
  | execute =>
      cases h : w.execute with
      | ok _ w' =>
          obtain ⟨-, -, -, hinput, -, -⟩ := execute_eq_ok_iff.1 h
          simp only [step, h, hinput, Step.binds?, Option.getD_none]
      | error fault w' =>
          obtain ⟨-, -, rfl⟩ := execute_eq_error_iff.1 h
          simp only [step, h, Step.binds?, Option.getD_none]
  | rebind source =>
      cases h : source.build with
      | ok input =>
          simp only [step, h, Step.binds?, Option.getD_some]
          exact (TensorSource.build_eq_ok_iff.1 h).1
      | error fault => simp only [step, h, Step.binds?, Option.getD_none]
  | write index element =>
      have hinfo := (w.input.write?_getD index element).1
      cases h : w.input.write? index element with
      | some input =>
          rw [h] at hinfo
          simp only [step, h]
          exact hinfo
      | none => simp only [step, h, Step.binds?, Option.getD_none]
  | feed => rfl

lemma after_input_info (w : Workload) (script : List Step) :
    (w.after script).input.info = inputInfoAfter w.output.info w.input.info script := by
  induction script generalizing w with
  | nil => rfl
  | cons s rest ih =>
      rw [after_cons, ih, (w.step_keeps s).2, step_input_info]
      rfl

/-- **Bound tensors fit their descriptions.**  A tensor that a recipe has made holds the elements of
the recipe, with whatever has been written since, and they fit the description of the recipe.  A
workload is built from one input and one output; after any script the data of its output fits the
description the output was bound with, and the data of its input fits the description bound last. -/
theorem bound_tensors_fit :
    (∀ (source : TensorSource) (t : HostTensor) (writes : List (Nat × Element)),
      source.build = .ok t →
      (t.afterWrites writes).info = source.info ∧
      (∃ contents, source.contents? = some contents ∧
        (t.afterWrites writes).data = contents.afterWrites writes) ∧
      source.info.Fits (t.afterWrites writes).data) ∧
    ∀ (job : Job) (inputs outputs : List HostTensor) (w : Workload) (script : List Step),
      configure job inputs outputs = .ok w →
      ∃ input output, inputs = [input] ∧ outputs = [output] ∧
        (w.after script).output.info = output.info ∧
        output.info.Fits (w.after script).output.data ∧
        (w.after script).input.info = inputInfoAfter output.info input.info script ∧
        (inputInfoAfter output.info input.info script).Fits (w.after script).input.data := by
  refine ⟨fun source t writes hbuilt => ?_, fun job inputs outputs w script hbuilt => ?_⟩
  · obtain ⟨hinfo, hcontents, hfits⟩ := TensorSource.build_eq_ok_iff.1 hbuilt
    obtain ⟨hkept, hdata⟩ := t.afterWrites_eq writes
    rw [hdata]
    exact ⟨hkept.trans hinfo, ⟨t.data, hcontents, rfl⟩, hfits.afterWrites writes⟩
  · obtain ⟨input, output, rfl, rfl, -, -, -, rfl⟩ := configure_eq_ok_iff.1 hbuilt
    have houtput := (after_keeps { job, input, output } script).2
    have hinput := after_input_info { job, input, output } script
    refine ⟨input, output, rfl, rfl, houtput, ?_, hinput, ?_⟩
    · exact houtput ▸ HostTensor.fits _
    · exact hinput ▸ HostTensor.fits _

/-- A write through the wrong view and one beyond the end leave four half precision elements as they
are.  A vector of three halves, bound to a workload for two, is the input after an execution that it
makes fail and a binding that fails. -/
theorem bound_tensors_fit_of_halves :
    let one : Element := .float16 ⟨0x3c00⟩
    let source : TensorSource := .zeros { shape := ⟨[2, 2]⟩, dataType := .float16 }
    let writes := [(1, one), (0, .float32 ⟨0x3f800000⟩), (4, one)]
    let halves : TensorInfo := { shape := ⟨[3]⟩, dataType := .float16 }
    let input : HostTensor := ⟨⟨⟨[2]⟩, .float16, {}⟩, .float16 [⟨0⟩, ⟨0x3c00⟩], rfl, rfl⟩
    let output : HostTensor := ⟨⟨⟨[2]⟩, .float32, {}⟩, .float32 [⟨0⟩, ⟨0⟩], rfl, rfl⟩
    let script : List Step :=
      [.execute, .feed, .rebind (.zeros halves), .write 0 one, .execute,
        .rebind (.zeros { shape := ⟨[2]⟩, dataType := .signed32 })]
    (∃ t, source.build = .ok t ∧
      (t.afterWrites writes).data = .float16 [⟨0⟩, ⟨0x3c00⟩, ⟨0⟩, ⟨0⟩] ∧
      source.info.Fits (t.afterWrites writes).data) ∧
    ∃ w, configure .halfToSingle [input] [output] = .ok w ∧
      (w.after script).input.info = halves ∧ halves.Fits (w.after script).input.data ∧
      (w.after script).output.info = output.info ∧
      output.info.Fits (w.after script).output.data := by
  intro one source writes halves input output script
  obtain ⟨hmade, hused⟩ := bound_tensors_fit
  constructor
  · obtain ⟨t, hbuilt⟩ : ∃ t, source.build = .ok t := ⟨_, rfl⟩
    obtain ⟨-, ⟨contents, hcontents, hdata⟩, hfits⟩ := hmade source t writes hbuilt
    refine ⟨t, hbuilt, ?_, hfits⟩
    rw [hdata, ← Option.some.inj hcontents]
    decide
  · have hbuilt : configure .halfToSingle [input] [output] =
        .ok { job := .halfToSingle, input, output } := rfl
    obtain ⟨_, _, ⟨⟩, ⟨⟩, houtput, hfits, hinput, hfits'⟩ := hused _ _ _ _ script hbuilt
    have hbound : inputInfoAfter output.info input.info script = halves := by decide
    rw [hbound] at hinput hfits'
    exact ⟨_, hbuilt, hinput, hfits', houtput, hfits⟩

end Workload

end NeuralBackend
