import Mathlib.Algebra.Order.Floor.Ring
import Mathlib.Data.Rat.Floor
import NeuralBackend.Proofs.Number.Conversion

/-!
# Rounding down to an integer

`Single.floor` works on the pattern: it drops the bits below the unit and, for a negative number,
moves one unit further out.  What it is for is said by the values.  `Single.value` is the number
that a pattern stands for, and `Single.FloorsTo` says of two patterns that the second one stands for
the greatest integer that is not above the first.

* Below one in magnitude the bits below the unit are all there is
  (`Single.units_lt_of_exponent_lt`), and from `2 ^ 23` on there are none of them
  (`Single.exists_units_of_le_exponent`).
* Between the two, the bits from the unit on are a whole number of units, and one unit more may
  carry into the next binade (`Single.units_place`, `Single.exists_units`).

**`Single.floorsTo_floor`** puts the three cases together.
-/

namespace NeuralBackend.Single

variable {x y : Single}

/-! ## Values -/

/-- A number in units of `2 ^ -149`, with its sign. -/
def scaled (x : Single) : ℤ := if x.isNegative then -(x.units : ℤ) else x.units

/-- The number that a pattern stands for. -/
def value (x : Single) : ℚ := x.scaled / (2 ^ 149 : ℕ)

/-- The number `y` is the greatest integer that is not above `x`, with the sign bit of `x`.
Infinity is kept, and where `x` is a NaN, so is `y`, with the same payload and without
signalling. -/
structure FloorsTo (x y : Single) : Prop where
  isNegative_eq : y.isNegative = x.isNegative
  finite : x.magnitude < 0x7f800000 → y.magnitude < 0x7f800000 ∧ y.value = ⌊x.value⌋
  infinite : x.magnitude = 0x7f800000 → y.magnitude = 0x7f800000
  nan : x.isNaN = true → 0x7fc00000 ≤ y.magnitude ∧ y.payload = x.payload

/-- A number with `rest` beyond a whole number of ones is rounded down to that number, and to the
next one further out if it is negative and there is a rest. -/
lemma value_eq_floor {count rest : Nat} (hrest : rest < 2 ^ 149)
    (hx : x.units = count * 2 ^ 149 + rest) (hsign : y.isNegative = x.isNegative)
    (hy : y.units = if x.isNegative ∧ rest ≠ 0 then (count + 1) * 2 ^ 149 else count * 2 ^ 149) :
    y.value = ⌊x.value⌋ := by
  have hone : (0 : ℤ) < (2 ^ 149 : ℕ) := by decide
  obtain ⟨whole, hwhole, hle, hlt⟩ : ∃ whole : ℤ, y.scaled = whole * (2 ^ 149 : ℕ) ∧
      y.scaled ≤ x.scaled ∧ x.scaled < y.scaled + (2 ^ 149 : ℕ) := by
    rw [scaled, scaled, hsign, hx, hy]
    generalize 2 ^ 149 = one at hrest hone
    cases x.isNegative with
    | false => exact ⟨count, by simp, by simp, by simpa using hrest⟩
    | true =>
        by_cases hzero : rest = 0
        · exact ⟨-count, by simp [hzero], by simp [hzero], by simpa [hzero] using hone⟩
        · refine ⟨-(count + 1), ?_, ?_, ?_⟩
          · simp only [hzero, true_and, ne_eq, not_false_eq_true, if_true]
            push_cast
            ring
          · simp only [hzero, true_and, ne_eq, not_false_eq_true, if_true]
            push_cast
            linarith
          · simp only [hzero, true_and, ne_eq, not_false_eq_true, if_true]
            push_cast
            have hpos : (0 : ℤ) < rest := by omega
            linarith
  have hfloor : ⌊x.value⌋ = whole := by
    rw [value, Rat.floor_intCast_div_natCast, Int.ediv_eq_iff_of_pos hone]
    constructor <;> linarith
  rw [hfloor, value, hwhole]
  push_cast
  ring

/-! ## Magnitudes and ones -/

/-- The value depends on the magnitude alone. -/
lemma units_congr (h : y.magnitude = x.magnitude) : y.units = x.units := by
  have hexponent : y.exponent = x.exponent := by rw [exponent, exponent, h]
  have hfraction : y.fraction = x.fraction := by rw [fraction, fraction, h]
  rw [units, units, significand, significand, hexponent, hfraction]

lemma units_eq_zero_iff : x.units = 0 ↔ x.magnitude = 0 := by
  constructor
  · intro h
    have hsignificand : x.significand = 0 :=
      (Nat.mul_eq_zero.1 h).resolve_right (Nat.two_pow_pos _).ne'
    unfold significand at hsignificand
    split_ifs at hsignificand with hexponent
    · unfold exponent at hexponent
      unfold fraction at hsignificand
      omega
    · omega
  · exact units_of_magnitude_eq_zero

/-- The magnitudes of a binade and the one after it. -/
lemma units_place {e q : Nat} (hm : x.magnitude = e * 0x800000 + q) (hlow : 0x800000 ≤ q)
    (hhigh : q ≤ 0x1000000) : x.units = q * 2 ^ e := by
  obtain ⟨f, rfl⟩ := Nat.exists_eq_add_of_le hlow
  rw [← Nat.add_assoc, ← Nat.succ_mul] at hm
  rcases Nat.lt_or_ge f 0x800000 with hlt | hnext
  · exact units_of_magnitude_eq hm hlt
  · -- the first magnitude of the next binade
    obtain rfl : f = 0x800000 := by omega
    rw [← Nat.succ_mul, ← Nat.add_zero (_ * _)] at hm
    rw [units_of_magnitude_eq hm (Nat.succ_pos _)]
    ring

/-- Numbers with an exponent below that of one are less than one. -/
lemma units_lt_of_exponent_lt (h : x.exponent < 127) : x.units < 2 ^ 149 := by
  have hexponent : Nat.max x.exponent 1 - 1 ≤ 125 := by
    simp only [Nat.max_def]
    split_ifs <;> omega
  calc x.units
      < 0x1000000 * 2 ^ (Nat.max x.exponent 1 - 1) :=
        Nat.mul_lt_mul_of_pos_right x.significand_lt (Nat.two_pow_pos _)
    _ ≤ 0x1000000 * 2 ^ 125 :=
        Nat.mul_le_mul_left _ (Nat.pow_le_pow_right Nat.two_pos hexponent)
    _ = 2 ^ 149 := by decide

/-- Numbers from `2 ^ 23` on are whole. -/
lemma exists_units_of_le_exponent (h : 150 ≤ x.exponent) :
    ∃ count, x.units = count * 2 ^ 149 := by
  refine ⟨x.significand * 2 ^ (x.exponent - 150), ?_⟩
  have hmax : Nat.max x.exponent 1 = x.exponent := Nat.max_eq_left (by omega)
  have hexponent : x.exponent - 1 = x.exponent - 150 + 149 := by omega
  rw [units, hmax, hexponent, pow_add, Nat.mul_assoc]

/-- A binade holds whole multiples of `2 ^ s` from its first magnitude to the first of the next. -/
lemma multiples_in_binade {e s q : Nat} (hs : s ≤ 23) (hlow : 0x800000 ≤ q)
    (hhigh : q < 0x1000000) :
    (e * 0x800000 + q) % 2 ^ s = q % 2 ^ s ∧ 0x800000 ≤ q / 2 ^ s * 2 ^ s ∧
      (q / 2 ^ s + 1) * 2 ^ s ≤ 0x1000000 := by
  have hfirst : 0x800000 = 2 ^ (23 - s) * 2 ^ s := by
    rw [← pow_add, Nat.sub_add_cancel hs]
    rfl
  have hnext : 0x1000000 = 2 ^ (24 - s) * 2 ^ s := by
    rw [← pow_add, Nat.sub_add_cancel (by omega)]
    rfl
  have hunit := Nat.two_pow_pos s
  refine ⟨?_, ?_, ?_⟩
  · rw [hfirst, ← Nat.mul_assoc, Nat.mul_add_mod']
  · rw [hfirst] at hlow ⊢
    exact Nat.mul_le_mul_right _ ((Nat.le_div_iff_mul_le hunit).2 hlow)
  · rw [hnext] at hhigh ⊢
    exact Nat.mul_le_mul_right _ ((Nat.div_lt_iff_lt_mul hunit).2 hhigh)

/-- Between the two, a number is a whole number of ones and a rest, which its magnitude shows in the
places below the unit; without the rest, and one unit further out, are whole numbers again. -/
lemma exists_units_of_exponent_lt (hlow : 127 ≤ x.exponent) (hhigh : x.exponent < 150) :
    let unit := 2 ^ (150 - x.exponent)
    let below := x.magnitude % unit
    ∃ count rest, rest < 2 ^ 149 ∧ x.units = count * 2 ^ 149 + rest ∧ (rest = 0 ↔ below = 0) ∧
      x.magnitude - below + unit < 0x7f800000 ∧
      (∀ y : Single, y.magnitude = x.magnitude - below → y.units = count * 2 ^ 149) ∧
      ∀ y : Single, y.magnitude = x.magnitude - below + unit → y.units = (count + 1) * 2 ^ 149 := by
  intro unit below
  obtain ⟨e, he⟩ : ∃ e, x.exponent = e + 1 := ⟨x.exponent - 1, by omega⟩
  let q := 0x800000 + x.fraction
  have hq : q < 0x1000000 := by
    have := x.fraction_lt
    omega
  have hmagnitude : x.magnitude = e * 0x800000 + q := by
    have hfields : x.magnitude = x.exponent * 0x800000 + x.fraction := (Nat.div_add_mod' _ _).symm
    rw [hfields, he]
    omega
  have hone : unit * 2 ^ e = 2 ^ 149 := by
    have hsum : 150 - x.exponent + e = 149 := by omega
    rw [← pow_add, hsum]
  obtain ⟨hbelow, hfirst, hnext⟩ :=
    multiples_in_binade (e := e) (s := 150 - x.exponent) (by omega) (Nat.le_add_right _ _) hq
  rw [← hmagnitude] at hbelow
  have hparts : q / unit * unit + below = q := by
    rw [show below = q % unit from hbelow, Nat.div_add_mod']
  have hunits : ∀ {y : Single} {count : Nat}, y.magnitude = e * 0x800000 + count * unit →
      0x800000 ≤ count * unit → count * unit ≤ 0x1000000 → y.units = count * 2 ^ 149 := by
    intro y count hy hle hge
    rw [units_place hy hle hge, Nat.mul_assoc, hone]
  refine ⟨q / unit, below * 2 ^ e, ?_, ?_, ?_, ?_, fun y hy => ?_, fun y hy => ?_⟩
  · rw [← hone]
    exact Nat.mul_lt_mul_of_pos_right (Nat.mod_lt _ (Nat.two_pow_pos _)) (Nat.two_pow_pos _)
  · rw [units_place hmagnitude (Nat.le_add_right _ _) hq.le, ← hone, ← Nat.mul_assoc, ← Nat.add_mul,
      hparts]
  · rw [Nat.mul_eq_zero, or_iff_left (Nat.two_pow_pos e).ne']
  · rw [Nat.succ_mul] at hnext
    change q / unit * unit + unit ≤ 0x1000000 at hnext
    omega
  · refine hunits (hy.trans ?_) hfirst ?_
    · omega
    · omega
  · refine hunits (hy.trans ?_) ?_ hnext
    · rw [Nat.succ_mul]
      omega
    · rw [Nat.succ_mul]
      exact Nat.le_add_right_of_le hfirst

/-! ## The floor -/

/-- **What is left of a magnitude.**  A finite number is a whole number of ones and a rest below
one, and what is left of it are those ones, with one more if it is negative and there is a rest. -/
lemma exists_units (hfinite : x.magnitude < 0x7f800000) :
    ∃ count rest, rest < 2 ^ 149 ∧ x.units = count * 2 ^ 149 + rest ∧
      x.flooredMagnitude < 0x7f800000 ∧
      ∀ y : Single, y.magnitude = x.flooredMagnitude →
        y.units = if x.isNegative ∧ rest ≠ 0 then (count + 1) * 2 ^ 149 else count * 2 ^ 149 := by
  unfold flooredMagnitude
  split_ifs with hsmall hnegative hlarge
  · have hrest : x.units ≠ 0 := fun h => hnegative.2 (units_eq_zero_iff.1 h)
    refine ⟨0, x.units, units_lt_of_exponent_lt hsmall, by omega, by decide, fun y hy => ?_⟩
    rw [if_pos ⟨hnegative.1, hrest⟩,
      units_place (e := 126) (q := 0x800000) hy (by decide) (by decide)]
    decide
  · refine ⟨0, x.units, units_lt_of_exponent_lt hsmall, by omega, by decide, fun y hy => ?_⟩
    rw [units_of_magnitude_eq_zero hy, if_neg]
    · rfl
    · rintro ⟨hneg, hrest⟩
      exact hnegative ⟨hneg, fun h => hrest (units_eq_zero_iff.2 h)⟩
  · obtain ⟨count, hcount⟩ := exists_units_of_le_exponent hlarge
    refine ⟨count, 0, Nat.two_pow_pos _, hcount.trans (Nat.add_zero _).symm, hfinite,
      fun y hy => ?_⟩
    rw [units_congr hy, hcount, if_neg fun h => h.2 rfl]
  · obtain ⟨count, rest, hrest, hunits, hzero, hlt, hdown, hup⟩ :=
      exists_units_of_exponent_lt (x := x) (by omega) (by omega)
    simp only [Nat.one_shiftLeft]
    refine ⟨count, rest, hrest, hunits, ?_, fun y hy => ?_⟩
    · split_ifs
      · exact hlt
      · exact (Nat.le_add_right _ _).trans_lt hlt
    · simp only [ne_eq, hzero]
      split_ifs at hy ⊢ with hmoves
      · exact hup y hy
      · exact hdown y hy

lemma flooredMagnitude_of_infinity (h : x.magnitude = 0x7f800000) :
    x.flooredMagnitude = 0x7f800000 := by
  have hexponent : x.exponent = 255 := by
    rw [exponent, h]
  rw [flooredMagnitude, if_neg (by omega), if_pos (by omega), h]

/-- **The floor is the greatest integer that is not above.** -/
theorem floorsTo_floor (x : Single) : x.FloorsTo x.floor := by
  cases hnan : x.isNaN with
  | true =>
      have hpayload := x.payload_lt
      have hlt : 0x7fc00000 + x.payload < 0x80000000 := by omega
      have hmagnitude := magnitude_ofPattern x.isNegative hlt
      have hfloor : x.floor =
          .ofPattern ((if x.isNegative then 0x80000000 else 0) + (0x7fc00000 + x.payload)) := by
        simp only [floor, hnan, if_true]
      have hlarge : 0x7f800000 < x.magnitude := of_decide_eq_true hnan
      rw [hfloor]
      refine ⟨isNegative_ofPattern _ hlt, fun h => ?_, fun h => ?_, fun _ => ⟨?_, ?_⟩⟩
      · omega
      · omega
      · exact hmagnitude.ge.trans' (Nat.le_add_right _ _)
      · exact payload_of_magnitude_eq hmagnitude hpayload
  | false =>
      have hfloor : x.floor =
          .ofPattern ((if x.isNegative then 0x80000000 else 0) + x.flooredMagnitude) := by
        simp only [floor, hnan, Bool.false_eq_true, if_false]
      rw [hfloor]
      have hle : x.magnitude ≤ 0x7f800000 := not_lt.1 (of_decide_eq_false hnan)
      rcases Nat.lt_or_eq_of_le hle with hfinite | hinfinite
      · obtain ⟨count, rest, hrest, hunits, hlt, hleft⟩ := exists_units hfinite
        have hlt' : x.flooredMagnitude < 0x80000000 := hlt.trans (by decide)
        have hmagnitude := magnitude_ofPattern x.isNegative hlt'
        have hsign := isNegative_ofPattern x.isNegative hlt'
        refine ⟨hsign, fun _ => ⟨hmagnitude.trans_lt hlt, ?_⟩, fun h => ?_, fun h => ?_⟩
        · exact value_eq_floor hrest hunits hsign (hleft _ hmagnitude)
        · omega
        · cases hnan.symm.trans h
      · rw [flooredMagnitude_of_infinity hinfinite]
        refine ⟨isNegative_ofPattern _ (by decide), fun h => ?_, fun _ => ?_, fun h => ?_⟩
        · omega
        · exact magnitude_ofPattern _ (by decide)
        · cases hnan.symm.trans h

end NeuralBackend.Single
