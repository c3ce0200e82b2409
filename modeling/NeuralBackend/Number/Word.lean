/-!
# Counts that fit a machine word

Dimensions, paddings and window counts are 32-bit words.  Arithmetic on them is done over the
natural numbers, and `word?` turns a result back into a word when it fits; `minus?` is a difference
that does not go below zero.
-/

namespace NeuralBackend

/-- The 32-bit word with value `n`, if there is one. -/
def word? (n : Nat) : Option UInt32 :=
  if h : n < UInt32.size then some (UInt32.ofNatLT n h) else none

theorem word?_eq_some_iff {n : Nat} {w : UInt32} : word? n = some w ↔ w.toNat = n := by
  unfold word?
  split
  · next h =>
    constructor
    · rintro h'
      injection h' with h'
      subst h'
      simp
    · intro h'
      congr 1
      apply UInt32.toNat_inj.1
      simp [h']
  · next h =>
    constructor
    · intro h'
      cases h'
    · intro h'
      exact absurd (h' ▸ w.toNat_lt_size) h

theorem word?_eq_none_iff {n : Nat} : word? n = none ↔ UInt32.size ≤ n := by
  unfold word?
  split <;> simp_all

theorem exists_toNat_eq {n : Nat} (h : n < UInt32.size) : ∃ w : UInt32, w.toNat = n :=
  ⟨UInt32.ofNatLT n h, UInt32.toNat_ofNatLT⟩

/-- The word that is `b` less than `a`, if there is one. -/
def minus? (a b : UInt32) : Option UInt32 :=
  if b ≤ a then some (a - b) else none

theorem minus?_eq_some_iff {a b d : UInt32} :
    minus? a b = some d ↔ d.toNat + b.toNat = a.toNat := by
  unfold minus?
  split
  · next h =>
    have hdifference : (a - b).toNat = a.toNat - b.toNat := UInt32.toNat_sub_of_le a b h
    rw [UInt32.le_iff_toNat_le] at h
    rw [Option.some.injEq, ← UInt32.toNat_inj, hdifference]
    omega
  · next h =>
    rw [UInt32.le_iff_toNat_le] at h
    constructor
    · intro h'
      cases h'
    · intro h'
      omega

end NeuralBackend
