import NeuralBackend.Proofs.Kernel.Check.Elementwise

/-!
# Broadcasting

The two inputs of an arithmetic layer need not have one shape: a dimension of one element is
stretched to the other one.  `Stretches x y z` is this for one index, and the whole rule is that it
holds at every index, with missing dimensions read as one.

**From a bounded list to every index.**  The shape that two operands broadcast to is computed over
the larger of their ranks, and then compared with the output over the larger rank of that pair, so
three ranks are involved.  `broadcastDims?_eq_some_iff` gets rid of the first bound: beyond both
ranks one and one broadcast to one, which is what the computed shape reads as there.  After
`exists_broadcastDims?_iff` there is no rank left.

**What follows.**  **`arithmetic_broadcasts`**: addition accepts exactly the outputs that the
inputs stretch to, in whichever order the inputs are given, and multiplication has the same to say
about any three operands, down to the cause of a refusal (`checkArithmetic_inNameOf`).
-/

namespace NeuralBackend.Kernel

/-! ## One index -/

/-- Dimensions `x` and `y` broadcast to `z`: either they are equal and `z` is the same, or one of
them is one and `z` is the other. -/
def Stretches (x y z : UInt32) : Prop :=
  (x = y ∧ z = x) ∨ (x = 1 ∧ z = y) ∨ (y = 1 ∧ z = x)

section Index

variable {x y z : UInt32}

lemma Stretches.symm (h : Stretches x y z) : Stretches y x z := by
  rcases h with ⟨rfl, rfl⟩ | ⟨rfl, rfl⟩ | ⟨rfl, rfl⟩
  · exact .inl ⟨rfl, rfl⟩
  · exact .inr (.inr ⟨rfl, rfl⟩)
  · exact .inr (.inl ⟨rfl, rfl⟩)

/-- One and one stretch to nothing but one. -/
lemma Stretches.eq_one (h : Stretches 1 1 z) : z = 1 := by
  rcases h with ⟨-, h⟩ | ⟨-, h⟩ | ⟨-, h⟩ <;> exact h

/-- The order in which the computation looks at the cases does not show: where two of them apply,
they agree. -/
lemma broadcastDim?_eq_some_iff : broadcastDim? x y = some z ↔ Stretches x y z := by
  unfold broadcastDim?
  split_ifs with hxy hx hy
  · subst hxy
    simp [Stretches, eq_comm]
  · subst hx
    simp [Stretches, hxy, Ne.symm hxy, eq_comm]
  · subst hy
    simp [Stretches, hxy, eq_comm]
  · simp [Stretches, hxy, hx, hy]

end Index

/-! ## Every index -/

/-- A list of results that may be missing is there when each of them is. -/
lemma mapM_eq_some_iff {α β : Type} {f : α → Option β} {l : List α} {bs : List β} :
    l.mapM f = some bs ↔ l.map f = bs.map some := by
  induction l generalizing bs with
  | nil => cases bs <;> simp
  | cons a l ih => cases bs <;> simp [Option.bind_eq_some_iff, ih]

variable {x y z : Operand}

/-- The computed shape has as many dimensions as the larger rank says, and it is what the two
operands stretch to, at the indices of these dimensions and at all others. -/
lemma broadcastDims?_eq_some_iff {dims : List UInt32} :
    broadcastDims? x y = some dims ↔
      dims.length = max x.rank y.rank ∧ ∀ i, Stretches (x.dim i) (y.dim i) (dims.getD i 1) := by
  rw [broadcastDims?, mapM_eq_some_iff]
  constructor
  · intro h
    have hlength : dims.length = max x.rank y.rank := by
      simpa using (congrArg List.length h).symm
    refine ⟨hlength, fun i => ?_⟩
    by_cases hi : i < dims.length
    · have hi' : i < Nat.max x.rank y.rank := by rwa [hlength] at hi
      rw [← broadcastDim?_eq_some_iff]
      simpa [hi, hi'] using congrArg (·[i]?) h
    · -- all three lists have ended, and all three dimensions are one
      rw [hlength, not_lt, Nat.max_le] at hi
      rw [Operand.dim_of_rank_le hi.1, Operand.dim_of_rank_le hi.2, List.getD_eq_default]
      · exact .inl ⟨rfl, rfl⟩
      · omega
  · rintro ⟨hlength, h⟩
    refine List.ext_getElem (by simp [hlength]) fun i hi hi' => ?_
    rw [List.length_map] at hi'
    simpa [hi', broadcastDim?_eq_some_iff] using h i

/-- Where the operands stretch to something at every index, there is a computed shape, and it reads
as that.  Beyond the larger rank there is nothing to compute, since one and one stretch to one. -/
lemma exists_broadcastDims?_of_stretches {f : Nat → UInt32}
    (h : ∀ i, Stretches (x.dim i) (y.dim i) (f i)) :
    ∃ dims, broadcastDims? x y = some dims ∧ ∀ i, dims.getD i 1 = f i := by
  let dims := (List.range (max x.rank y.rank)).map f
  have hdims : ∀ i, dims.getD i 1 = f i := by
    intro i
    by_cases hi : i < max x.rank y.rank
    · simp [dims, hi]
    · have hbeyond := h i
      rw [not_lt, Nat.max_le] at hi
      rw [Operand.dim_of_rank_le hi.1, Operand.dim_of_rank_le hi.2] at hbeyond
      rw [hbeyond.eq_one, List.getD_eq_default]
      simpa [dims, Nat.max_le] using hi
  refine ⟨dims, broadcastDims?_eq_some_iff.2 ⟨by simp [dims], fun i => ?_⟩, hdims⟩
  rw [hdims i]
  exact h i

/-- An operand has the computed shape, if there is one, when the two operands stretch to it at every
index. -/
lemma exists_broadcastDims?_iff :
    (∃ dims, broadcastDims? x y = some dims ∧
        z.sameShape { dims, dataType := z.dataType } = true) ↔
      ∀ i, Stretches (x.dim i) (y.dim i) (z.dim i) := by
  constructor
  · rintro ⟨dims, hdims, hshape⟩ i
    rw [Operand.sameShape_iff.1 hshape i]
    exact (broadcastDims?_eq_some_iff.1 hdims).2 i
  · intro h
    obtain ⟨dims, hdims, hread⟩ := exists_broadcastDims?_of_stretches h
    exact ⟨dims, hdims, Operand.sameShape_iff.2 fun i => (hread i).symm⟩

/-! ## Arithmetic layers -/

lemma checkArithmetic_ok_iff_stretches {routine : Routine} :
    checkArithmetic routine x y z = .ok () ↔
      x.dataType ∈ floatTypes ∧ x.dataType = y.dataType ∧ x.dataType = z.dataType ∧
      ∀ i, Stretches (x.dim i) (y.dim i) (z.dim i) := by
  rw [checkArithmetic_ok_iff, exists_broadcastDims?_iff]

/-- The inputs of an accepted layer can change places. -/
lemma checkArithmetic_ok_swap {routine : Routine} (h : checkArithmetic routine x y z = .ok ()) :
    checkArithmetic routine y x z = .ok () := by
  obtain ⟨hfloat, hxy, hxz, hstretch⟩ := checkArithmetic_ok_iff_stretches.1 h
  rw [checkArithmetic_ok_iff_stretches, ← hxy]
  exact ⟨hfloat, rfl, hxz, fun i => (hstretch i).symm⟩

/-- The same refusal, in the name of another routine. -/
def Refusal.inNameOf (routine : Routine) (r : Refusal) : Refusal := { r with routine }

section Names

variable {routine routine' : Routine} {cause : Cause}

lemma Routine.require_inNameOf {c : Prop} [Decidable c] :
    (routine.require c cause).mapError (.inNameOf routine') = routine'.require c cause := by
  unfold Routine.require
  split_ifs <;> rfl

lemma Routine.demand_inNameOf {α : Type} {found : Option α} :
    (routine.demand found cause).mapError (.inNameOf routine') = routine'.demand found cause := by
  cases found <;> rfl

/-- Two routines that check arithmetic say the same, each in its own name. -/
lemma checkArithmetic_inNameOf :
    (checkArithmetic routine x y z).mapError (.inNameOf routine')
      = checkArithmetic routine' x y z := by
  simp only [checkArithmetic, Routine.requireType, Routine.requireSameType, mapError_bind,
    Routine.require_inNameOf, Routine.demand_inNameOf]

end Names

/-- **Arithmetic broadcasts.**  An addition is accepted exactly when the three operands have one
floating point type and, at every index, the dimensions of the two inputs are equal or one of them
is one, and that of the output is the other.  The order of the inputs makes no difference to this.
A multiplication is accepted exactly when the addition is, and refused for the same cause. -/
theorem arithmetic_broadcasts (x y z : Operand) :
    (checkAddition x y z = .ok () ↔
      (x.dataType = .float16 ∨ x.dataType = .float32) ∧
      y.dataType = x.dataType ∧ z.dataType = x.dataType ∧
      ∀ i, (x.dim i = y.dim i ∧ z.dim i = x.dim i) ∨ (x.dim i = 1 ∧ z.dim i = y.dim i) ∨
        (y.dim i = 1 ∧ z.dim i = x.dim i)) ∧
    (checkAddition y x z = .ok () ↔ checkAddition x y z = .ok ()) ∧
    (checkMultiplication x y z = .ok () ↔ checkAddition x y z = .ok ()) ∧
    checkMultiplication x y z = (checkAddition x y z).mapError (.inNameOf .multiplication) := by
  refine ⟨?_, ⟨checkArithmetic_ok_swap, checkArithmetic_ok_swap⟩, ?_, ?_⟩
  · rw [checkAddition, checkArithmetic_ok_iff_stretches, mem_floatTypes_iff,
      eq_comm (b := y.dataType), eq_comm (b := z.dataType)]
    rfl
  · rw [checkMultiplication, checkAddition, checkArithmetic_ok_iff_stretches,
      checkArithmetic_ok_iff_stretches]
  · exact checkArithmetic_inNameOf.symm

/-- A row of three elements and a column without any broadcast to no rows of three.  Ones further
out are not seen. -/
example :
    checkAddition ⟨[3, 1], .float32, {}⟩ ⟨[1, 0, 1], .float32, {}⟩ ⟨[3, 0, 1, 1], .float32, {}⟩
      = .ok () := by
  decide

end NeuralBackend.Kernel
