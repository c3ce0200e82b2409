import NeuralBackend.Kernel.Check.Basic
import NeuralBackend.Proofs.Kernel.Shape
import NeuralBackend.Proofs.Sequence

/-!
# What the parts of a check decide

One lemma for each part that the checks of the kernel library are put together from: the part passes
exactly when its condition holds.  A check is then taken apart by rewriting with these lemmas and
with `bind_ok_iff`, and no proof about a check has to look at what a refusal says.

`Routine.require_error_iff` is the other side: a part that does not pass gives the refusal that is
written beside its condition.
-/

namespace NeuralBackend.Kernel

lemma mem_floatTypes_iff {t : DataType} : t ∈ floatTypes ↔ t = .float16 ∨ t = .float32 := by
  simp [floatTypes]

lemma mem_floatOrQuantisedTypes_iff {t : DataType} :
    t ∈ floatOrQuantisedTypes ↔ t = .float16 ∨ t = .float32 ∨ t = .quantisedAsymm8 := by
  simp [floatOrQuantisedTypes]

namespace Routine

variable {routine : Routine} {cause : Cause} {x y : Operand} {u : Unit}

lemma require_ok_iff {c : Prop} [Decidable c] : routine.require c cause = .ok u ↔ c := test_ok_iff

lemma require_error_iff {c : Prop} [Decidable c] {r : Refusal} :
    routine.require c cause = .error r ↔ ¬c ∧ r = ⟨routine, cause⟩ := test_error_iff

/-- A demand is met by the value that was found. -/
lemma demand_ok_iff {α : Type} {found : Option α} {a : α} :
    routine.demand found cause = .ok a ↔ found = some a := by
  cases found with
  | none => exact iff_of_false (fun h => by cases h) (fun h => by cases h)
  | some value =>
      rw [Option.some.injEq]
      exact pure_ok_iff

lemma demand_error_iff {α : Type} {found : Option α} {r : Refusal} :
    routine.demand found cause = .error r ↔ found = none ∧ r = ⟨routine, cause⟩ := by
  cases found with
  | none =>
      constructor
      · intro h
        exact ⟨rfl, (Except.error.inj h).symm⟩
      · rintro ⟨-, rfl⟩
        rfl
  | some value => exact iff_of_false (fun h => by cases h) (fun h => by cases h.1)

lemma requireType_ok_iff {allowed : List DataType} :
    routine.requireType x allowed = .ok u ↔ x.dataType ∈ allowed := require_ok_iff

lemma requireSameType_ok_iff : routine.requireSameType x y = .ok u ↔ x.dataType = y.dataType :=
  require_ok_iff

lemma requireSameShape_ok_iff :
    routine.requireSameShape x y = .ok u ↔ x.sameShape y = true := require_ok_iff

lemma requireVector_ok_iff {operand : String} {length : UInt32} :
    routine.requireVector operand x length = .ok u ↔ x.rank = 1 ∧ x.dim 0 = length :=
  require_ok_iff

end Routine

end NeuralBackend.Kernel
