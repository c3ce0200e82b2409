import Mathlib.Tactic.Lemma
import Mathlib.Tactic.SplitIfs

/-!
# Checks in sequence

Whatever is refused is refused by a sequence of checks in `Except`, and the first failure ends the
sequence.  These lemmas take such a sequence apart: it comes through exactly when each of its parts
does (`bind_ok_iff`), and a part that only tests a condition comes through exactly when the
condition holds (`test_ok_iff`).  A sequence that fails does so with the failure of one of its
parts, and the parts before it come through (`bind_error_iff`, `test_error_iff`).

Two sequences are compared part by part: where the first parts are one, only what follows its
success counts (`bind_congr_of_ok`), and failures can be put in other terms in each part on its own
(`mapError_bind`).
-/

namespace NeuralBackend

variable {ε ε' α β : Type}

/-- A sequence comes through when its first part does, and then the rest does with the value of
that part. -/
lemma bind_ok_iff {first : Except ε α} {rest : α → Except ε β} {b : β} :
    first >>= rest = .ok b ↔ ∃ a, first = .ok a ∧ rest a = .ok b := by
  cases first <;> simp [bind, Except.bind]

/-- A sequence fails where its first part does, or where the rest does after the first part came
through. -/
lemma bind_error_iff {first : Except ε α} {rest : α → Except ε β} {e : ε} :
    first >>= rest = .error e ↔ first = .error e ∨ ∃ a, first = .ok a ∧ rest a = .error e := by
  cases first <;> simp [bind, Except.bind]

/-- Sequences with one first part need only agree in what comes after it came through. -/
lemma bind_congr_of_ok {first : Except ε α} {rest rest' : α → Except ε β}
    (h : ∀ a, first = .ok a → rest a = rest' a) : first >>= rest = first >>= rest' := by
  cases first with
  | error e => rfl
  | ok a => exact h a rfl

/-- To put the failures of a sequence in other terms, it is enough to do so in each of its parts. -/
lemma mapError_bind (f : ε → ε') (first : Except ε α) (rest : α → Except ε β) :
    (first >>= rest).mapError f = first.mapError f >>= fun a => (rest a).mapError f := by
  cases first <;> rfl

/-- The end of a sequence always comes through, with the value it is given. -/
lemma pure_ok_iff {a b : α} : (pure a : Except ε α) = .ok b ↔ a = b :=
  ⟨fun h => Except.ok.inj h, fun h => congrArg Except.ok h⟩

/-- A test comes through when its condition holds. -/
lemma test_ok_iff {c : Prop} [Decidable c] {e : ε} {u : Unit} :
    (if c then .ok () else .error e : Except ε Unit) = .ok u ↔ c := by
  split_ifs with h
  · exact iff_of_true rfl h
  · exact iff_of_false (fun hok => by cases hok) h

/-- A test that fails does so with its own error. -/
lemma test_error_iff {c : Prop} [Decidable c] {e e' : ε} :
    (if c then .ok () else .error e : Except ε Unit) = .error e' ↔ ¬c ∧ e' = e := by
  split_ifs with h
  · exact iff_of_false (fun herror => by cases herror) fun hnot => hnot.1 h
  · constructor
    · intro herror
      exact ⟨h, (Except.error.inj herror).symm⟩
    · rintro ⟨-, rfl⟩
      rfl

end NeuralBackend
