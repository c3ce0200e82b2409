import Mathlib.Tactic.SplitIfs
import NeuralBackend.Kernel.Activation
import NeuralBackend.Proofs.Number.Conversion

/-!
# What the activation functions compute

The activation functions that compare numbers are described by the order of the numbers, and the
others by the rounded operations they are made of.

* `Single.IsMax` and `Single.IsMin` are the larger and the smaller one of two numbers, where a NaN
  gives way to the other one.  The numbers are compared at their positions in the numeric order.
* `Kernel.ActivationKernel.Gives` says what a function makes of an element, by these.
* `Kernel.ActivationInfo.InRange` is the range of an activation that has one.  No NaN gets past a
  bound that is a number: what comes out of a comparison with it is a number as well
  (`Single.IsMax.le`, `Single.IsMin.le`).

**`Kernel.ActivationInfo.computes_apply`**: every element becomes what its activation makes of it,
and that is in range.
-/

namespace NeuralBackend

/-! ## The larger and the smaller one of two numbers -/

/-- The larger one of `x` and `y`.  A NaN gives way to the other one, and of two numbers at the same
position it may be either. -/
inductive Single.IsMax (x y : Single) : Single → Prop
  | left_nan (hx : x.isNaN = true) : IsMax x y y
  | right_nan (hx : x.isNaN = false) (hy : y.isNaN = true) : IsMax x y x
  | left (hx : x.isNaN = false) (hy : y.isNaN = false) (h : y.position ≤ x.position) : IsMax x y x
  | right (hx : x.isNaN = false) (hy : y.isNaN = false) (h : x.position ≤ y.position) : IsMax x y y

/-- The smaller one of `x` and `y`.  A NaN gives way to the other one, and of two numbers at the
same position it may be either. -/
inductive Single.IsMin (x y : Single) : Single → Prop
  | left_nan (hx : x.isNaN = true) : IsMin x y y
  | right_nan (hx : x.isNaN = false) (hy : y.isNaN = true) : IsMin x y x
  | left (hx : x.isNaN = false) (hy : y.isNaN = false) (h : x.position ≤ y.position) : IsMin x y x
  | right (hx : x.isNaN = false) (hy : y.isNaN = false) (h : y.position ≤ x.position) : IsMin x y y

namespace Single

variable {x y z : Single}

lemma lt_iff : x.lt y = true ↔ x.isNaN = false ∧ y.isNaN = false ∧ x.position < y.position := by
  simp only [lt, Bool.and_eq_true, Bool.not_eq_true', decide_eq_true_eq, and_assoc]

lemma le_iff : x.le y = true ↔ x.isNaN = false ∧ y.isNaN = false ∧ x.position ≤ y.position := by
  simp only [le, Bool.and_eq_true, Bool.not_eq_true', decide_eq_true_eq, and_assoc]

lemma le_refl (hx : x.isNaN = false) : x.le x = true := le_iff.2 ⟨hx, hx, Int.le_refl _⟩

lemma isMax_max (x y : Single) : x.IsMax y (x.max y) := by
  unfold Single.max
  split_ifs with hx hy hlt
  · exact .left_nan hx
  · exact .right_nan (Bool.eq_false_of_not_eq_true hx) hy
  · obtain ⟨hx, hy, hpositions⟩ := lt_iff.1 hlt
    exact .right hx hy hpositions.le
  · have hx := Bool.eq_false_of_not_eq_true hx
    have hy := Bool.eq_false_of_not_eq_true hy
    exact .left hx hy (not_lt.1 fun h => hlt (lt_iff.2 ⟨hx, hy, h⟩))

lemma isMin_min (x y : Single) : x.IsMin y (x.min y) := by
  unfold Single.min
  split_ifs with hx hy hlt
  · exact .left_nan hx
  · exact .right_nan (Bool.eq_false_of_not_eq_true hx) hy
  · obtain ⟨hy, hx, hpositions⟩ := lt_iff.1 hlt
    exact .right hx hy hpositions.le
  · have hx := Bool.eq_false_of_not_eq_true hx
    have hy := Bool.eq_false_of_not_eq_true hy
    exact .left hx hy (not_lt.1 fun h => hlt (lt_iff.2 ⟨hy, hx, h⟩))

/-- What is at least a number is a number, and not below it. -/
lemma IsMax.le (h : x.IsMax y z) (hy : y.isNaN = false) : y.le z = true := by
  cases h with
  | left_nan _ => exact le_refl hy
  | right_nan _ hnan => cases hy.symm.trans hnan
  | left hx _ h => exact le_iff.2 ⟨hy, hx, h⟩
  | right _ _ _ => exact le_refl hy

/-- What is at most a number is a number, and not above it. -/
lemma IsMin.le (h : x.IsMin y z) (hx : x.isNaN = false) : z.le x = true := by
  cases h with
  | left_nan hnan => cases hx.symm.trans hnan
  | right_nan _ _ => exact le_refl hx
  | left _ _ _ => exact le_refl hx
  | right _ hy h => exact le_iff.2 ⟨hy, hx, h⟩

/-- The smaller one of two numbers is not below what is below both. -/
lemma IsMin.le_of_le {low : Single} (h : x.IsMin y z) (hx : low.le x = true)
    (hy : low.le y = true) : low.le z = true := by
  cases h with
  | left_nan _ => exact hy
  | right_nan _ _ => exact hx
  | left _ _ _ => exact hx
  | right _ _ _ => exact hy

/-- Without its sign a number has the same magnitude. -/
lemma isNegative_abs (x : Single) : x.abs.isNegative = false ∧ x.abs.magnitude = x.magnitude := by
  have hlt : x.magnitude < 0x80000000 := Nat.mod_lt _ (by decide)
  have habs : x.abs = .ofPattern ((if false = true then 0x80000000 else 0) + x.magnitude) := by
    rw [abs, if_neg Bool.false_ne_true, Nat.zero_add]
  rw [habs]
  exact ⟨isNegative_ofPattern _ hlt, magnitude_ofPattern _ hlt⟩

end Single

namespace Kernel

/-! ## The functions -/

/-- The function makes `y` of `x`, with the constants `a` and `b`. -/
inductive ActivationKernel.Gives (a b x : Single) : ActivationKernel → Single → Prop
  | logistic : Gives a b x .logistic (Single.one.div (Single.one.add x.neg.exp))
  | tanh : Gives a b x .tanh (a.mul (b.mul x).tanh)
  | relu {y : Single} (h : x.IsMax .zero y) : Gives a b x .relu y
  | boundedRelu {y z : Single} (hlower : x.IsMax .zero y) (hupper : a.IsMin y z) :
      Gives a b x .boundedRelu z
  | luBoundedRelu {y z : Single} (hlower : x.IsMax b y) (hupper : a.IsMin y z) :
      Gives a b x .luBoundedRelu z
  | leakyReluAbove (hnan : x.isNaN = false) (h : 0 < x.position) : Gives a b x .leakyRelu x
  | leakyRelu (h : x.isNaN = true ∨ x.position ≤ 0) : Gives a b x .leakyRelu (a.mul x)
  | softRelu : Gives a b x .softRelu x.exp.log1p
  | abs {y : Single} (hsign : y.isNegative = false) (hmagnitude : y.magnitude = x.magnitude) :
      Gives a b x .abs y
  | square : Gives a b x .square (x.mul x)
  | sqrt : Gives a b x .sqrt x.sqrt
  | linear : Gives a b x .linear ((a.mul x).add b)

namespace ActivationInfo

variable {info : ActivationInfo} {x y : Single}

/-- The number is in the range of the activation, if it has one. -/
def InRange (info : ActivationInfo) (y : Single) : Prop :=
  match info.function with
  | .relu => Single.zero.le y = true
  | .boundedRelu =>
      (info.a.isNaN = false → y.le info.a = true) ∧
        (Single.zero.le info.a = true → Single.zero.le y = true)
  | .luBoundedRelu =>
      (info.a.isNaN = false → y.le info.a = true) ∧
        (info.b.le info.a = true → info.b.le y = true)
  | .abs => y.isNegative = false
  | _ => True

/-- The activation makes `y` of `x`. -/
structure Computes (info : ActivationInfo) (x y : Single) : Prop where
  gives : info.function.Gives info.a info.b x y
  inRange : info.InRange y

/-- A number that is clipped at both ends is between them. -/
lemma clipped {low high z : Single} (hlower : x.IsMax low y) (hupper : high.IsMin y z) :
    (high.isNaN = false → z.le high = true) ∧ (low.le high = true → low.le z = true) := by
  refine ⟨hupper.le, fun hle => hupper.le_of_le hle (hlower.le ?_)⟩
  exact (Single.le_iff.1 hle).1

/-- What a function makes of an element is in its range. -/
lemma inRange_of_gives (h : info.function.Gives info.a info.b x y) : info.InRange y := by
  unfold InRange
  generalize info.function = function at h ⊢
  cases h with
  | relu h => exact h.le rfl
  | boundedRelu hlower hupper => exact clipped hlower hupper
  | luBoundedRelu hlower hupper => exact clipped hlower hupper
  | abs hsign _ => exact hsign
  | _ => trivial

/-- **Activations compute their functions.** -/
theorem computes_apply (info : ActivationInfo) (x : Single) : info.Computes x (info.apply x) := by
  have hgives : info.function.Gives info.a info.b x (info.apply x) := by
    unfold apply
    cases info.function with
    | logistic => exact .logistic
    | tanh => exact .tanh
    | relu => exact .relu (Single.isMax_max _ _)
    | boundedRelu => exact .boundedRelu (Single.isMax_max _ _) (Single.isMin_min _ _)
    | luBoundedRelu => exact .luBoundedRelu (Single.isMax_max _ _) (Single.isMin_min _ _)
    | leakyRelu =>
        rw [ActivationKernel.apply]
        split_ifs with h
        · obtain ⟨-, hnan, hpositive⟩ := Single.lt_iff.1 h
          exact .leakyReluAbove hnan hpositive
        · refine .leakyRelu ?_
          cases hnan : x.isNaN with
          | true => exact .inl rfl
          | false =>
              exact .inr (not_lt.1 fun hpositive => h (Single.lt_iff.2 ⟨rfl, hnan, hpositive⟩))
    | softRelu => exact .softRelu
    | abs =>
        obtain ⟨hsign, hmagnitude⟩ := x.isNegative_abs
        exact .abs hsign hmagnitude
    | square => exact .square
    | sqrt => exact .sqrt
    | linear => exact .linear
  exact ⟨hgives, inRange_of_gives hgives⟩

end ActivationInfo

end Kernel

end NeuralBackend
