import NeuralBackend.Proofs.Window
import Mathlib.Data.Set.Card

/-!
# How many positions a window has

The number of positions of a window is worked out from sums, differences and a rounded quotient,
each of which may leave the words.  This file says what is counted, without any of that.

* `Slide.Fits` holds of a slide whose window has a length and a stride and is no longer than the
  padded axis, which is a word.  Exactly then there is a number of positions
  (`Slide.exists_count?_iff`): the quotient and the one that is added to it are words as well
  (`Slide.Fits.quotient_lt`).
* `Slide.Counts` holds of one number.  Where a partial last stride is dropped it is the number of
  positions that end inside the padded axis; where it counts it is the least number of positions
  that reach its end.
* **`window_positions_exact`** puts this together for the two axes of a plane, with what follows for
  the two ways to round and for the two paddings of an axis.
-/

namespace NeuralBackend

namespace Rounding

variable {n d q : Nat}

/-- Rounded up, a quotient is the least number of strides that cover `n`. -/
lemma ceiling_quotient_le_iff (hd : 1 ≤ d) : ceiling.quotient n d ≤ q ↔ n ≤ q * d := by
  rw [quotient]
  split_ifs with hwhole
  · have hdvd : n / d * d = n := Nat.div_mul_cancel (Nat.dvd_of_mod_eq_zero hwhole)
    rw [Nat.add_zero]
    constructor
    · intro h
      rw [← hdvd]
      exact Nat.mul_le_mul_right d h
    · intro h
      exact Nat.div_le_of_le_mul (h.trans_eq (Nat.mul_comm q d))
  · have hpartial : n ≠ q * d := by
      rintro rfl
      exact hwhole (Nat.mul_mod_left q d)
    rw [Nat.add_one_le_iff, Nat.div_lt_iff_lt_mul hd]
    omega

lemma quotient_le (r : Rounding) (hd : 1 ≤ d) : r.quotient n d ≤ n := by
  cases r with
  | floor => exact Nat.div_le_self n d
  | ceiling =>
      rw [ceiling_quotient_le_iff hd]
      exact Nat.le_mul_of_pos_right n hd

end Rounding

namespace Slide

variable {s : Slide} {n : Nat}

/-! ## Where there is a number of positions -/

/-- The window has a length and a stride and is no longer than the padded axis, which is a word. -/
structure Fits (s : Slide) : Prop where
  stride_pos : 1 ≤ s.stride.toNat
  extent_pos : 1 ≤ s.extent.toNat
  extent_le : s.extent.toNat ≤ s.padded
  padded_lt : s.padded < UInt32.size

/-- One more than the strides that the window can make is still a word. -/
lemma Fits.quotient_lt (h : s.Fits) :
    s.rounding.quotient s.span s.stride.toNat + 1 < UInt32.size := by
  have hstrides : s.rounding.quotient s.span s.stride.toNat ≤ s.span :=
    s.rounding.quotient_le h.stride_pos
  have hspan : s.span + s.extent.toNat = s.padded := Nat.sub_add_cancel h.extent_le
  have hextent := h.extent_pos
  have hpadded := h.padded_lt
  omega

lemma count?_eq_some_iff_fits {count : UInt32} :
    s.count? = some count ↔
      s.Fits ∧ count.toNat = s.rounding.quotient s.span s.stride.toNat + 1 := by
  rw [count?_eq_some_iff]
  constructor
  · rintro ⟨hstride, hextent, hfits, hlong, hcount⟩
    exact ⟨⟨hstride, hextent, hfits, hlong⟩, hcount⟩
  · rintro ⟨⟨hstride, hextent, hfits, hlong⟩, hcount⟩
    exact ⟨hstride, hextent, hfits, hlong, hcount⟩

/-- There is a number of positions exactly when the window fits. -/
lemma exists_count?_iff : (∃ count, s.count? = some count) ↔ s.Fits := by
  constructor
  · rintro ⟨count, hcount⟩
    exact (count?_eq_some_iff_fits.1 hcount).1
  · intro h
    obtain ⟨count, hcount⟩ := exists_toNat_eq h.quotient_lt
    exact ⟨count, count?_eq_some_iff_fits.2 ⟨h, hcount⟩⟩

/-! ## What is counted -/

/-- There are `n` positions.  Where a partial last stride is dropped, these are the positions that
end inside the padded axis; where it counts, they are as many as it takes for the last one to reach
the end of the axis. -/
def Counts (s : Slide) (n : Nat) : Prop :=
  match s.rounding with
  | .floor => {j : Nat | s.start j + s.extent.toNat ≤ s.padded}.ncard = n
  | .ceiling => IsLeast {k : Nat | 1 ≤ k ∧ s.padded ≤ s.start (k - 1) + s.extent.toNat} n

/-- The positions that end inside the padded axis are the first ones. -/
lemma Fits.inside_eq (h : s.Fits) :
    {j : Nat | s.start j + s.extent.toNat ≤ s.padded}
      = ↑(Finset.range (Rounding.floor.quotient s.span s.stride.toNat + 1)) := by
  have hspan : s.span + s.extent.toNat = s.padded := Nat.sub_add_cancel h.extent_le
  ext j
  rw [Set.mem_ofPred_eq, Finset.coe_range, Set.mem_Iio, Nat.lt_succ_iff, Rounding.quotient,
    Nat.le_div_iff_mul_le h.stride_pos, ← hspan, start]
  exact Nat.add_le_add_iff_right

/-- Some number of positions reaches the end of the padded axis, and from there on every number. -/
lemma Fits.reaches_iff (h : s.Fits) {k : Nat} (hk : 1 ≤ k) :
    s.padded ≤ s.start (k - 1) + s.extent.toNat ↔
      Rounding.ceiling.quotient s.span s.stride.toNat + 1 ≤ k := by
  have hspan : s.span + s.extent.toNat = s.padded := Nat.sub_add_cancel h.extent_le
  have hstrides : Rounding.ceiling.quotient s.span s.stride.toNat ≤ k - 1 ↔
      s.span ≤ s.start (k - 1) := Rounding.ceiling_quotient_le_iff h.stride_pos
  omega

/-- The number of positions is the rounded number of strides that the window can make, and one. -/
lemma Fits.counts_iff (h : s.Fits) :
    s.Counts n ↔ n = s.rounding.quotient s.span s.stride.toNat + 1 := by
  rw [Counts]
  cases s.rounding with
  | floor =>
      rw [h.inside_eq, Set.ncard_coe_finset, Finset.card_range]
      exact eq_comm
  | ceiling =>
      have hleast : IsLeast {k : Nat | 1 ≤ k ∧ s.padded ≤ s.start (k - 1) + s.extent.toNat}
          (Rounding.ceiling.quotient s.span s.stride.toNat + 1) := by
        refine ⟨⟨Nat.le_add_left 1 _, (h.reaches_iff (Nat.le_add_left 1 _)).2 (le_refl _)⟩, ?_⟩
        rintro k ⟨hk, hreaches⟩
        exact (h.reaches_iff hk).1 hreaches
      constructor
      · intro hn
        exact hn.unique hleast
      · rintro rfl
        exact hleast

/-- The count is the number of positions of a window that fits. -/
lemma count?_eq_some_iff_counts {count : UInt32} :
    s.count? = some count ↔ s.Fits ∧ s.Counts count.toNat := by
  rw [count?_eq_some_iff_fits]
  exact and_congr_right fun h => h.counts_iff.symm

/-- How the padding is split between the two ends of the axis makes no difference. -/
lemma count?_congr {before after : UInt32}
    (h : before.toNat + after.toNat = s.before.toNat + s.after.toNat) :
    Slide.count? { s with before, after } = s.count? := by
  have hpadded : Slide.padded { s with before, after } = s.padded := by
    simp only [padded]
    omega
  refine Option.ext fun count => ?_
  rw [count?_eq_some_iff, count?_eq_some_iff, span, span, hpadded]

/-- Where a partial last stride counts, it makes one more position. -/
lemma toNat_ceiling_count {count count' : UInt32}
    (hcount : Slide.count? { s with rounding := .floor } = some count)
    (hcount' : Slide.count? { s with rounding := .ceiling } = some count') :
    count'.toNat = count.toNat + if s.stride.toNat ∣ s.span then 0 else 1 := by
  obtain ⟨-, htotal⟩ := count?_eq_some_iff_fits.1 hcount
  obtain ⟨-, htotal'⟩ := count?_eq_some_iff_fits.1 hcount'
  rw [htotal, htotal']
  simp only [Nat.dvd_iff_mod_eq_zero]
  exact Nat.add_right_comm _ _ _

end Slide

/-- **What the number of positions over a plane is.**  There is one exactly when the window fits on
both axes, and then it is the number of positions on each axis; adding one to the number of strides
never leaves the words.  Of the two ways to round, the one that counts a partial last stride gives
one more position on an axis exactly when the stride does not divide what the window leaves of it.
The two paddings of an axis matter through their sum alone. -/
theorem window_positions_exact (p : PadStride) (width height windowWidth windowHeight : UInt32) :
    let columns := p.across width windowWidth
    let rows := p.down height windowHeight
    let count? := fun p : PadStride => p.planeCount? width height windowWidth windowHeight
    ((count? p).isSome = true ↔ columns.Fits ∧ rows.Fits) ∧
    (∀ c r, count? p = some (c, r) ↔
      (columns.Fits ∧ columns.Counts c.toNat) ∧ (rows.Fits ∧ rows.Counts r.toNat)) ∧
    (∀ s ∈ [columns, rows], s.Fits →
      s.rounding.quotient s.span s.stride.toNat + 1 < UInt32.size) ∧
    (∀ c r c' r', count? { p with rounding := .floor } = some (c, r) →
      count? { p with rounding := .ceiling } = some (c', r') →
      (c'.toNat = c.toNat + if columns.stride.toNat ∣ columns.span then 0 else 1) ∧
      (r'.toNat = r.toNat + if rows.stride.toNat ∣ rows.span then 0 else 1)) ∧
    ∀ padding : Padding,
      padding.left.toNat + padding.right.toNat
        = p.padding.left.toNat + p.padding.right.toNat →
      padding.top.toNat + padding.bottom.toNat
        = p.padding.top.toNat + p.padding.bottom.toNat →
      count? { p with padding := padding } = count? p := by
  intro columns rows count?
  refine ⟨?_, fun c r => ?_, fun s _ h => h.quotient_lt, ?_, ?_⟩
  · rw [Option.isSome_iff_exists, ← Slide.exists_count?_iff, ← Slide.exists_count?_iff]
    constructor
    · rintro ⟨⟨c, r⟩, hplane⟩
      obtain ⟨hcolumns, hrows⟩ := PadStride.planeCount?_eq_some_iff.1 hplane
      exact ⟨⟨c, hcolumns⟩, ⟨r, hrows⟩⟩
    · rintro ⟨⟨c, hcolumns⟩, ⟨r, hrows⟩⟩
      exact ⟨(c, r), PadStride.planeCount?_eq_some_iff.2 ⟨hcolumns, hrows⟩⟩
  · rw [← Slide.count?_eq_some_iff_counts, ← Slide.count?_eq_some_iff_counts]
    exact PadStride.planeCount?_eq_some_iff
  · intro c r c' r' hfloor hceiling
    obtain ⟨hcolumns, hrows⟩ := PadStride.planeCount?_eq_some_iff.1 hfloor
    obtain ⟨hcolumns', hrows'⟩ := PadStride.planeCount?_eq_some_iff.1 hceiling
    exact ⟨Slide.toNat_ceiling_count (s := columns) hcolumns hcolumns',
      Slide.toNat_ceiling_count (s := rows) hrows hrows'⟩
  · intro padding hacross hdown
    refine Option.ext fun ⟨c, r⟩ => ?_
    have hcolumns : (PadStride.across { p with padding } width windowWidth).count?
        = columns.count? := Slide.count?_congr (s := columns) hacross
    have hrows : (PadStride.down { p with padding } height windowHeight).count?
        = rows.count? := Slide.count?_congr (s := rows) hdown
    rw [PadStride.planeCount?_eq_some_iff, PadStride.planeCount?_eq_some_iff, hcolumns, hrows]

/-- The extremes: a plane as wide as a word allows under a window of one element, and a stride that
leaves the plane at once. -/
example :
    PadStride.planeCount? { strideX := 1, strideY := 0xffffffff, rounding := .ceiling }
      0xffffffff 0xffffffff 1 1 = some (0xffffffff, 2) := by decide

end NeuralBackend
