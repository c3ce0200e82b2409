import NeuralBackend.Proofs.Kernel.Activation
import NeuralBackend.Proofs.Number.Unique
import NeuralBackend.Workload.Job
import Mathlib.Data.List.Forall2

/-!
# Jobs element by element

`Job.image?` computes the images of all elements of a tensor at once, one clause for each pair of a
job and a type.  Seen from outside a job is one function of one element, `Job.kernel?`, and the
images are those of the elements at their places.  `TensorData.MapsTo` says this of any function of
elements, so that it can be said of several jobs in a row as well: `TensorData.MapsTo.bind` puts two
functions together, element by element.

What the function is for is said apart from it, by `Job.Computes`: a floor is the greatest integer
that is not above, a conversion keeps the value or goes to the nearest one, and an activation makes
of a number what its function says.  For the floor and the conversions this leaves no choice
(`Job.Computes.unique`).

**`Job.mapsTo_of_image?`**: the images of a job are the images of the elements, and
**`Job.achieves_of_image?`**: they are what the job is to compute.
-/

namespace NeuralBackend

/-! ## Elements -/

namespace TensorData

/-- The elements in order, each with its type. -/
def elements : TensorData → List Element
  | float32 values => values.map .float32
  | float16 values => values.map .float16

/-- There is an element of `y` for each element of `x`, in the same order, and it is the image of
that element under `kernel`. -/
def MapsTo (kernel : Element → Option Element) (x y : TensorData) : Prop :=
  List.Forall₂ (fun e e' => kernel e = some e') x.elements y.elements

variable {kernel kernel' : Element → Option Element} {x y z : TensorData}

lemma length_elements (x : TensorData) : x.elements.length = x.length := by
  cases x with
  | float32 values => exact List.length_map _
  | float16 values => exact List.length_map _

lemma MapsTo.length_eq (h : MapsTo kernel x y) : x.length = y.length := by
  rw [← length_elements, ← length_elements]
  exact List.Forall₂.length_eq h

lemma MapsTo.refl (x : TensorData) : MapsTo some x x := List.forall₂_same.2 fun _ _ => rfl

/-- The images of the images are the images under both functions, one after the other. -/
lemma MapsTo.bind (h : MapsTo kernel x y) (h' : MapsTo kernel' y z) :
    MapsTo (fun e => (kernel e).bind kernel') x z := by
  unfold MapsTo at h h' ⊢
  generalize x.elements = xs at h ⊢
  generalize y.elements = ys at h h'
  generalize z.elements = zs at h' ⊢
  -- by induction on the images under the first function; those under the second keep step
  induction h generalizing zs with
  | nil =>
      cases h'
      exact .nil
  | cons hfirst _ ih =>
      cases h' with
      | cons hnext hrest =>
          have himage := (congrArg (Option.bind · kernel') hfirst).trans hnext
          exact .cons himage (ih _ hrest)

end TensorData

/-! ## Kernels -/

namespace Job

/-- The image of one element; `none` if the job does not read elements of that type. -/
def kernel? : Job → Element → Option Element
  | activation p, .float32 x => some (.float32 ((Kernel.ActivationInfo.ofLayer p).apply x))
  | floor, .float32 x => some (.float32 x.floor)
  | halfToSingle, .float16 x => some (.float32 x.toSingle)
  | singleToHalf, .float32 x => some (.float16 x.toHalf)
  | _, _ => none

/-- The image of one element under jobs, one after the other. -/
def through? (jobs : List Job) (e : Element) : Option Element :=
  jobs.foldlM (fun e job => job.kernel? e) e

lemma through?_cons (job : Job) (rest : List Job) :
    through? (job :: rest) = fun e => (job.kernel? e).bind (through? rest) := rfl

/-- The images of the data are those of its elements. -/
lemma mapsTo_of_image? {job : Job} {x y : TensorData} (h : job.image? x = some y) :
    x.MapsTo job.kernel? y := by
  cases job <;> cases x <;> simp only [image?, Option.some.injEq, reduceCtorEq] at h <;> subst h <;>
    simp only [TensorData.MapsTo, TensorData.elements, kernel?, List.forall₂_map_left_iff,
      List.forall₂_map_right_iff, List.forall₂_same, implies_true]

/-! ## What the kernels are for -/

/-- What a job is to make of an element. -/
inductive Computes : Job → Element → Element → Prop
  | activation {p : Activation} {x y : Single}
      (h : (Kernel.ActivationInfo.ofLayer p).Computes x y) :
      Computes (activation p) (.float32 x) (.float32 y)
  | floor {x y : Single} (h : x.FloorsTo y) : Computes floor (.float32 x) (.float32 y)
  | halfToSingle {x : Half} {y : Single} (h : x.WidensTo y) :
      Computes halfToSingle (.float16 x) (.float32 y)
  | singleToHalf {x : Single} {y : Half} (h : x.NarrowsTo y) :
      Computes singleToHalf (.float32 x) (.float16 y)

/-- The elements of `y` are what the job is to make of those of `x`, in the same order. -/
def ComputesAll (job : Job) (x y : TensorData) : Prop :=
  List.Forall₂ job.Computes x.elements y.elements

/-- An activation may give either of two zeros; all else is determined. -/
lemma Computes.unique {job : Job} {e e₁ e₂ : Element} (hjob : ∀ p, job ≠ .activation p)
    (h₁ : job.Computes e e₁) (h₂ : job.Computes e e₂) : e₁ = e₂ := by
  cases h₁ with
  | activation _ => exact absurd rfl (hjob _)
  | floor h =>
      cases h₂ with
      | floor h' => rw [h.unique h']
  | halfToSingle h =>
      cases h₂ with
      | halfToSingle h' => rw [h.unique h']
  | singleToHalf h =>
      cases h₂ with
      | singleToHalf h' => rw [h.unique h']

lemma computes_of_kernel? {job : Job} {e e' : Element} (h : job.kernel? e = some e') :
    job.Computes e e' := by
  cases job <;> cases e <;> simp only [kernel?, Option.some.injEq, reduceCtorEq] at h <;> subst h
  · exact .activation (Kernel.ActivationInfo.computes_apply _ _)
  · exact .floor (Single.floorsTo_floor _)
  · exact .halfToSingle (Half.widensTo_toSingle _)
  · exact .singleToHalf (Single.narrowsTo_toHalf _)

/-- The data `y` are what the job is to compute of `x`, and unless the job is an activation no other
elements are. -/
structure Achieves (job : Job) (x y : TensorData) : Prop where
  computes : job.ComputesAll x y
  unique : (∀ p, job ≠ .activation p) → ∀ z, job.ComputesAll x z → z.elements = y.elements

/-- The images of the data are what the job is to compute. -/
lemma achieves_of_image? {job : Job} {x y : TensorData} (h : job.image? x = some y) :
    job.Achieves x y := by
  have hcomputes : job.ComputesAll x y :=
    List.Forall₂.imp (fun _ _ => computes_of_kernel?) (mapsTo_of_image? h)
  refine ⟨hcomputes, fun hjob z hz => ?_⟩
  have hunique : Relator.RightUnique job.Computes := fun _ _ _ => Computes.unique hjob
  exact List.right_unique_forall₂' hunique hz hcomputes

end Job

end NeuralBackend
