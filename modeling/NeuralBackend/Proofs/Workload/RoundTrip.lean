import NeuralBackend.Proofs.Number.Conversion
import NeuralBackend.Proofs.Workload.Elements
import NeuralBackend.Proofs.Workload.Execution

/-!
# Conversions there and back

A tensor is converted by one job, and its conversion is converted back by another.

**Two jobs.**  `Job.Overwrites` says that a job on one tensor is built and run over another one, and
what that one is afterwards.  With the types of the job and one shape it always comes to that
(`Job.exists_overwrites`), whatever the output held, and the elements are the images
(`Job.Overwrites.mapsTo`).  So two jobs that take each element of a tensor back to itself restore
the data of the tensor (`Job.there_and_back`).

**Two conversions.**  A half precision number that is not a NaN comes back from single precision
(`Half.toHalf_toSingle`), because widening is exact and narrowing goes to the nearest number.  A
single precision number comes back from half precision when it is such a number widened.

**`conversions_round_trip`** joins the two.
-/

namespace NeuralBackend

/-! ## Elements -/

namespace TensorData

variable {x y : TensorData} {kernel : Element → Option Element}

/-- Data is its type and its elements. -/
lemma eq_of_elements_eq (htype : x.dataType = y.dataType) (h : x.elements = y.elements) :
    x = y := by
  cases x with
  | float32 xs =>
      cases y with
      | float32 ys =>
          exact congrArg _ (List.map_injective_iff.2 (fun _ _ => Element.float32.inj) h)
      | float16 ys => cases htype
  | float16 xs =>
      cases y with
      | float32 ys => cases htype
      | float16 ys =>
          exact congrArg _ (List.map_injective_iff.2 (fun _ _ => Element.float16.inj) h)

/-- Elements that are their own images stay as they are. -/
lemma MapsTo.elements_eq (h : x.MapsTo kernel y) (hfixed : ∀ e ∈ x.elements, kernel e = some e) :
    y.elements = x.elements := by
  unfold MapsTo at h
  generalize x.elements = xs at h hfixed ⊢
  generalize y.elements = ys at h ⊢
  induction h with
  | nil => rfl
  | cons hfirst _ ih =>
      obtain ⟨hfixed, hrest⟩ := List.forall_mem_cons.1 hfixed
      rw [ih hrest, Option.some.inj (hfixed.symm.trans hfirst)]

end TensorData

/-! ## Two jobs -/

namespace Job

variable {job there back : Job} {x y z : HostTensor}

/-- The job is built on `x` with the output `y`, it runs, and `z` is the output afterwards. -/
def Overwrites (job : Job) (x y z : HostTensor) : Prop :=
  ∃ built finished, Workload.configure job [x] [y] = .ok built ∧
    built.execute = .ok () finished ∧ finished.output = z

lemma exists_overwrites (hin : x.info.dataType = job.inputType)
    (hout : y.info.dataType = job.outputType) (hshape : x.info.shape = y.info.shape) :
    ∃ z, job.Overwrites x y z := by
  obtain ⟨built, finished, hbuilt, hrun⟩ := Workload.exists_run hin hout hshape
  exact ⟨_, built, finished, hbuilt, hrun, rfl⟩

/-- The output keeps its description, and its elements are the images of those of the input. -/
lemma Overwrites.mapsTo (h : job.Overwrites x y z) :
    z.info = y.info ∧ x.data.MapsTo job.kernel? z.data := by
  obtain ⟨_, finished, hbuilt, hrun, rfl⟩ := h
  obtain ⟨_, _, ⟨⟩, ⟨⟩, -, -, -, rfl⟩ := Workload.configure_eq_ok_iff.1 hbuilt
  obtain ⟨-, -, -, -, hinfo, himage⟩ := Workload.execute_eq_ok_iff.1 hrun
  exact ⟨hinfo, mapsTo_of_image? himage⟩

/-- Two jobs that take each element of a tensor back to itself restore its data, whatever the two
outputs held. -/
lemma there_and_back (hx : x.info.dataType = there.inputType)
    (hy : y.info.dataType = there.outputType) (hz : z.info.dataType = back.outputType)
    (hnext : there.outputType = back.inputType) (hlast : back.outputType = there.inputType)
    (hshape : y.info.shape = x.info.shape) (hshape' : z.info.shape = x.info.shape)
    (hfixed : ∀ e ∈ x.data.elements, (there.kernel? e).bind back.kernel? = some e) :
    ∃ y' z', there.Overwrites x y y' ∧ back.Overwrites y' z z' ∧ z'.data = x.data := by
  obtain ⟨y', hthere⟩ := exists_overwrites hx hy hshape.symm
  obtain ⟨hinfo, hmaps⟩ := hthere.mapsTo
  have hy' : y'.info.dataType = back.inputType := by rw [hinfo, hy, hnext]
  have hshape'' : y'.info.shape = z.info.shape := by rw [hinfo, hshape, hshape']
  obtain ⟨z', hback⟩ := exists_overwrites hy' hz hshape''
  obtain ⟨hinfo', hmaps'⟩ := hback.mapsTo
  refine ⟨y', z', hthere, hback, TensorData.eq_of_elements_eq ?_ ?_⟩
  · rw [← z'.dataType_eq, ← x.dataType_eq, hinfo', hz, hlast, hx]
  · exact (hmaps.bind hmaps').elements_eq hfixed

end Job

/-! ## Two conversions -/

namespace Job

variable {x y z : HostTensor}

/-- Half precision numbers come back from single precision. -/
lemma widen_then_narrow {halves : List Half} (hdata : x.data = .float16 halves)
    (hnan : ∀ h ∈ halves, h.isNaN = false)
    (hy : y.info.dataType = .float32) (hz : z.info.dataType = .float16)
    (hshape : y.info.shape = x.info.shape) (hshape' : z.info.shape = x.info.shape) :
    ∃ y' z', halfToSingle.Overwrites x y y' ∧ singleToHalf.Overwrites y' z z' ∧
      z'.data = x.data := by
  have hx : x.info.dataType = .float16 := x.dataType_eq.trans (congrArg TensorData.dataType hdata)
  refine there_and_back hx hy hz rfl rfl hshape hshape' fun e he => ?_
  rw [hdata] at he
  obtain ⟨h, hh, rfl⟩ := List.mem_map.1 he
  change some (Element.float16 h.toSingle.toHalf) = _
  rw [Half.toHalf_toSingle (hnan h hh)]

/-- Widened half precision numbers come back from half precision. -/
lemma narrow_then_widen {singles : List Single} (hdata : x.data = .float32 singles)
    (hwidened : ∀ v ∈ singles, ∃ h : Half, h.isNaN = false ∧ h.toSingle = v)
    (hy : y.info.dataType = .float16) (hz : z.info.dataType = .float32)
    (hshape : y.info.shape = x.info.shape) (hshape' : z.info.shape = x.info.shape) :
    ∃ y' z', singleToHalf.Overwrites x y y' ∧ halfToSingle.Overwrites y' z z' ∧
      z'.data = x.data := by
  have hx : x.info.dataType = .float32 := x.dataType_eq.trans (congrArg TensorData.dataType hdata)
  refine there_and_back hx hy hz rfl rfl hshape hshape' fun e he => ?_
  rw [hdata] at he
  obtain ⟨v, hv, rfl⟩ := List.mem_map.1 he
  obtain ⟨h, hnan, rfl⟩ := hwidened v hv
  change some (Element.float32 h.toSingle.toHalf.toSingle) = _
  rw [Half.toHalf_toSingle hnan]

end Job

/-- **Conversions round-trip.**  Widening keeps sign and value, and narrowing goes to the nearest
number, of two to the even one.  A tensor of half precision numbers without a NaN is converted to
single precision and back to the very same data; so is a tensor of single precision numbers that are
such numbers widened, the other way round.  The two outputs only have to have the types and the
shape; what they hold does not matter. -/
theorem conversions_round_trip :
    (∀ h : Half, h.WidensTo h.toSingle) ∧
    (∀ v : Single, v.isNaN = false → v.NarrowsTo v.toHalf) ∧
    (∀ (x y z : HostTensor) (halves : List Half), x.data = .float16 halves →
      (∀ h ∈ halves, h.isNaN = false) →
      y.info.dataType = .float32 → z.info.dataType = .float16 →
      y.info.shape = x.info.shape → z.info.shape = x.info.shape →
      ∃ y' z', Job.halfToSingle.Overwrites x y y' ∧ Job.singleToHalf.Overwrites y' z z' ∧
        z'.data = x.data) ∧
    ∀ (x y z : HostTensor) (singles : List Single), x.data = .float32 singles →
      (∀ v ∈ singles, ∃ h : Half, h.isNaN = false ∧ h.toSingle = v) →
      y.info.dataType = .float16 → z.info.dataType = .float32 →
      y.info.shape = x.info.shape → z.info.shape = x.info.shape →
      ∃ y' z', Job.singleToHalf.Overwrites x y y' ∧ Job.halfToSingle.Overwrites y' z z' ∧
        z'.data = x.data := by
  refine ⟨Half.widensTo_toSingle, fun v _ => v.narrowsTo_toHalf, ?_, ?_⟩
  · intro x y z halves hdata hnan hy hz hshape hshape'
    exact Job.widen_then_narrow hdata hnan hy hz hshape hshape'
  · intro x y z singles hdata hwidened hy hz hshape hshape'
    exact Job.narrow_then_widen hdata hwidened hy hz hshape hshape'

/-- Negative zero, the smallest subnormal, infinity and the lowest finite number come back through
outputs that held NaNs.  Halfway between the largest finite number and `2 ^ 16`, narrowing goes to
infinity. -/
theorem conversions_round_trip_of_extremes :
    let halves : List Half := [⟨0x8000⟩, ⟨0x0001⟩, ⟨0x7c00⟩, ⟨0xfbff⟩]
    let singles : List Single := [⟨0x80000000⟩, ⟨0x33800000⟩, ⟨0x7f800000⟩, ⟨0xc77fe000⟩]
    let x : HostTensor := ⟨⟨⟨[2, 2]⟩, .float16, {}⟩, .float16 halves, rfl, rfl⟩
    let wide : HostTensor := ⟨⟨⟨[2, 2]⟩, .float32, {}⟩, .float32 singles, rfl, rfl⟩
    let y : HostTensor :=
      ⟨⟨⟨[2, 2]⟩, .float32, {}⟩, .float32 (List.replicate 4 ⟨0x7fc00000⟩), rfl, rfl⟩
    let z : HostTensor := ⟨⟨⟨[2, 2]⟩, .float16, {}⟩, .float16 (List.replicate 4 ⟨0x7e00⟩), rfl, rfl⟩
    (∃ y' z', Job.halfToSingle.Overwrites x y y' ∧ Job.singleToHalf.Overwrites y' z z' ∧
      z'.data = .float16 halves) ∧
    (∃ z' y', Job.singleToHalf.Overwrites wide z z' ∧ Job.halfToSingle.Overwrites z' y y' ∧
      y'.data = .float32 singles) ∧
    Single.NarrowsTo ⟨0x477ff000⟩ ⟨0x7c00⟩ := by
  intro halves singles x wide y z
  obtain ⟨-, hnearest, hwide, hnarrow⟩ := conversions_round_trip
  have hwidened : ∀ v ∈ singles, ∃ h : Half, h.isNaN = false ∧ h.toSingle = v := by
    have hmap : singles = halves.map Half.toSingle := by decide
    intro v hv
    rw [hmap] at hv
    obtain ⟨h, hh, rfl⟩ := List.mem_map.1 hv
    exact ⟨h, (by decide : ∀ h ∈ halves, h.isNaN = false) h hh, rfl⟩
  exact ⟨hwide x y z halves rfl (by decide) rfl rfl rfl rfl,
    hnarrow wide z y singles rfl hwidened rfl rfl rfl rfl, hnearest _ (by decide)⟩

end NeuralBackend
