import NeuralBackend.Proofs.Number.Floor

/-!
# Results without a choice

The conversions and the floor are described by the values of numbers: `Half.WidensTo`,
`Single.NarrowsTo` and `Single.FloorsTo`.  These descriptions leave nothing open.  Whatever widens,
narrows or rounds down as they say does it as the functions here do.

* Numbers of different magnitudes have different values (`Single.magnitude_eq_of_units_eq`).
* A value has one nearest half precision number.  Of two that are equally near both would be even,
  and the odd one between them is nearer (`Half.Nearest.unique`).
* A quiet NaN is its sign and its payload (`Single.magnitude_of_quiet`, `Half.magnitude_of_quiet`).
-/

namespace NeuralBackend

namespace Single

variable {x y : Single}

/-- A number is its sign and its magnitude. -/
lemma eq_of_magnitude_eq (hsign : x.isNegative = y.isNegative) (hm : x.magnitude = y.magnitude) :
    x = y := by
  have hbits : x.bits.toNat = y.bits.toNat := by
    have := x.bits.toNat_lt
    have := y.bits.toNat_lt
    simp only [isNegative, decide_eq_decide, magnitude] at hsign hm
    omega
  cases x
  cases y
  exact congrArg _ (UInt32.toNat_inj.1 hbits)

lemma magnitude_of_quiet (h : 0x7fc00000 ≤ x.magnitude) : x.magnitude = 0x7fc00000 + x.payload := by
  have hlt : x.magnitude < 0x80000000 := Nat.mod_lt _ (by decide)
  unfold payload fraction
  omega

/-- All numbers of a binade are less than those of the next one. -/
lemma units_lt_units (h : x.exponent < y.exponent) : x.units < y.units := by
  have hmax : Nat.max y.exponent 1 = y.exponent := Nat.max_eq_left (by omega)
  have hnormal : 0x800000 ≤ y.significand := y.le_significand (by omega)
  have hy : 0x800000 * 2 ^ (y.exponent - 1) ≤ y.units := by
    rw [units, hmax]
    exact Nat.mul_le_mul_right _ hnormal
  refine lt_of_lt_of_le ?_ hy
  rcases Nat.eq_zero_or_pos x.exponent with hzero | hpos
  · have hunits : x.units = x.fraction := by
      rw [units, significand, if_pos hzero, hzero]
      exact Nat.mul_one _
    rw [hunits]
    exact x.fraction_lt.trans_le (Nat.le_mul_of_pos_right _ (Nat.two_pow_pos _))
  · have hmax' : Nat.max x.exponent 1 = x.exponent := Nat.max_eq_left hpos
    calc x.units
        < 0x1000000 * 2 ^ (x.exponent - 1) := by
          rw [units, hmax']
          exact Nat.mul_lt_mul_of_pos_right x.significand_lt (Nat.two_pow_pos _)
      _ = 0x800000 * 2 ^ x.exponent := by
          obtain ⟨e, he⟩ : ∃ e, x.exponent = e + 1 := ⟨x.exponent - 1, by omega⟩
          rw [he, Nat.add_sub_cancel, pow_succ]
          ring
      _ ≤ 0x800000 * 2 ^ (y.exponent - 1) :=
          Nat.mul_le_mul_left _ (Nat.pow_le_pow_right Nat.two_pos (by omega))

lemma magnitude_eq_of_units_eq (h : x.units = y.units) : x.magnitude = y.magnitude := by
  rcases Nat.lt_trichotomy x.exponent y.exponent with hlt | hexponent | hlt
  · exact absurd h (units_lt_units hlt).ne
  · have hsignificand : x.significand = y.significand := by
      rw [units, units, hexponent] at h
      exact Nat.eq_of_mul_eq_mul_right (Nat.two_pow_pos _) h
    have hfraction : x.fraction = y.fraction := by
      unfold significand at hsignificand
      rw [hexponent] at hsignificand
      split_ifs at hsignificand <;> omega
    unfold exponent at hexponent
    unfold fraction at hfraction
    omega
  · exact absurd h.symm (units_lt_units hlt).ne

end Single

namespace Half

variable {h : Half} {x y : Single}

lemma magnitude_of_quiet (hq : 0x7e00 ≤ h.magnitude) : h.magnitude = 0x7e00 + h.payload := by
  have hlt := h.magnitude_lt
  unfold payload fraction
  omega

/-- **Widening is determined.** -/
theorem WidensTo.unique (hx : h.WidensTo x) (hy : h.WidensTo y) : x = y := by
  refine Single.eq_of_magnitude_eq (hx.isNegative_eq.trans hy.isNegative_eq.symm) ?_
  rcases Nat.lt_trichotomy h.magnitude 0x7c00 with hfinite | hinfinite | hnan
  · exact Single.magnitude_eq_of_units_eq ((hx.units_eq hfinite).trans (hy.units_eq hfinite).symm)
  · exact (hx.infinite hinfinite).trans (hy.infinite hinfinite).symm
  · obtain ⟨hquiet, hpayload⟩ := hx.nan (decide_eq_true hnan)
    obtain ⟨hquiet', hpayload'⟩ := hy.nan (decide_eq_true hnan)
    rw [Single.magnitude_of_quiet hquiet, Single.magnitude_of_quiet hquiet', hpayload, hpayload']

lemma Nearest.le {value m m' : Nat} (hm : Nearest value m) (hm' : Nearest value m') : m' ≤ m := by
  by_contra hlt
  have hsame : Nat.dist (units m) value = Nat.dist (units m') value :=
    Nat.le_antisymm (hm.nearest m' hm'.le_infinity) (hm'.nearest m hm.le_infinity)
  have heven := hm.even m' hm'.le_infinity (by omega) hsame.symm
  have heven' := hm'.even m hm.le_infinity (by omega) hsame
  -- both are even, so there is one between them, and it is nearer
  have hbetween := hm.nearest (m + 1) (by have := hm'.le_infinity; omega)
  have hlow : units m < units (m + 1) := units_strictMono (Nat.lt_succ_self m)
  have hhigh : units (m + 1) < units m' := units_strictMono (by omega)
  simp only [Nat.dist] at hsame hbetween
  omega

lemma Nearest.unique {value m m' : Nat} (hm : Nearest value m) (hm' : Nearest value m') : m = m' :=
  Nat.le_antisymm (hm'.le hm) (hm.le hm')

end Half

/-- **Narrowing is determined.** -/
theorem Single.NarrowsTo.unique {x : Single} {h h' : Half} (hh : x.NarrowsTo h)
    (hh' : x.NarrowsTo h') : h = h' := by
  refine Half.eq_of_magnitude_eq (hh.isNegative_eq.trans hh'.isNegative_eq.symm) ?_
  cases hnan : x.isNaN with
  | true =>
      obtain ⟨hquiet, hpayload⟩ := hh.nan hnan
      obtain ⟨hquiet', hpayload'⟩ := hh'.nan hnan
      rw [Half.magnitude_of_quiet hquiet, Half.magnitude_of_quiet hquiet', hpayload, hpayload']
  | false => exact (hh.nearest hnan).unique (hh'.nearest hnan)

/-- **The floor is determined.** -/
theorem Single.FloorsTo.unique {x y y' : Single} (h : x.FloorsTo y) (h' : x.FloorsTo y') :
    y = y' := by
  have hsign := h.isNegative_eq.trans h'.isNegative_eq.symm
  refine Single.eq_of_magnitude_eq hsign ?_
  rcases Nat.lt_trichotomy x.magnitude 0x7f800000 with hfinite | hinfinite | hnan
  · have hvalue : y.value = y'.value := (h.finite hfinite).2.trans (h'.finite hfinite).2.symm
    refine Single.magnitude_eq_of_units_eq ?_
    have hscaled : y.scaled = y'.scaled := by
      have hone : ((2 ^ 149 : ℕ) : ℚ) ≠ 0 := by positivity
      rw [Single.value, Single.value, div_left_inj' hone] at hvalue
      exact_mod_cast hvalue
    rw [Single.scaled, Single.scaled, hsign] at hscaled
    split_ifs at hscaled <;> omega
  · exact (h.infinite hinfinite).trans (h'.infinite hinfinite).symm
  · obtain ⟨hquiet, hpayload⟩ := h.nan (decide_eq_true hnan)
    obtain ⟨hquiet', hpayload'⟩ := h'.nan (decide_eq_true hnan)
    rw [Single.magnitude_of_quiet hquiet, Single.magnitude_of_quiet hquiet', hpayload, hpayload']

end NeuralBackend
