import NeuralBackend.Window
import Mathlib.Tactic.Lemma
import Mathlib.Tactic.SplitIfs

/-!
# Positions of a window along one axis

A window moves along one axis of a padded plane, from the first padded element on.  A `Slide` is
such an axis with its window, and positions are counted from zero over the natural numbers.

* `Slide.count?_eq_some_iff` says when there is a number of positions, and `Rounding.quotient_mul`
  where the last of them starts.
* `Slide.Meets` holds of a position where the window is over some element of the plane itself, not
  of its padding alone.
* **`Slide.meets_iff_not_overshoots`**: with paddings shorter than the window every position but the
  last meets the plane, and the last one does unless the slide overshoots.  A slide overshoots only
  where a partial last stride counts (`Slide.Overshoots`).
-/

namespace NeuralBackend

/-! ## Rounded quotients -/

namespace Rounding

variable {r : Rounding} {n d : Nat}

/-- Whole strides before the last one stay inside `n`, however the quotient is rounded. -/
lemma mul_le_of_lt_quotient {j : Nat} (hd : 1 ≤ d) (h : j < r.quotient n d) : j * d ≤ n := by
  have hj : j ≤ n / d := by
    cases r with
    | floor => exact Nat.le_of_lt h
    | ceiling =>
        rw [quotient] at h
        split_ifs at h <;> omega
  exact (Nat.le_div_iff_mul_le hd).1 hj

/-- The whole strides in `n` leave the remainder; one more is counted where a partial one counts. -/
lemma quotient_mul :
    r.quotient n d * d = n - n % d + if r = .ceiling ∧ n % d ≠ 0 then d else 0 := by
  have hwhole : n / d * d = n - n % d := Nat.div_mul_self_eq_mod_sub_self
  cases r with
  | floor => simp [quotient, hwhole]
  | ceiling =>
      by_cases hrest : n % d = 0
      · simp [quotient, hrest, hwhole]
      · simp [quotient, hrest, hwhole, Nat.add_mul]

end Rounding

/-! ## Slides -/

/-- One axis of a plane: `size` elements, the padding in front of them and behind them, and a window
of length `extent` that moves by `stride`. -/
structure Slide where
  rounding : Rounding
  size : UInt32
  before : UInt32
  after : UInt32
  extent : UInt32
  stride : UInt32

namespace Slide

variable {s : Slide} {count : UInt32}

/-- The number of positions of the window. -/
def count? (s : Slide) : Option UInt32 :=
  windowCount? s.rounding s.size s.before s.after s.extent s.stride

/-- The length of the axis with its padding. -/
def padded (s : Slide) : Nat := s.size.toNat + s.before.toNat + s.after.toNat

/-- What the window leaves of the axis: as far as it can move. -/
def span (s : Slide) : Nat := s.padded - s.extent.toNat

/-- There is a number of positions when the window has a length and a stride and fits the padded
axis, whose length is a word. -/
lemma count?_eq_some_iff :
    s.count? = some count ↔
      1 ≤ s.stride.toNat ∧ 1 ≤ s.extent.toNat ∧ s.extent.toNat ≤ s.padded ∧ s.padded < UInt32.size ∧
      count.toNat = s.rounding.quotient s.span s.stride.toNat + 1 := by
  rw [count?, windowCount?]
  split_ifs with hempty
  · refine iff_of_false (fun h => by cases h) ?_
    rintro ⟨hstride, hextent, -⟩
    rcases hempty with h | h
    · rw [h] at hstride
      exact absurd hstride (by decide)
    · rw [h] at hextent
      exact absurd hextent (by decide)
  · rw [not_or, ← UInt32.toNat_inj, ← UInt32.toNat_inj, UInt32.toNat_zero] at hempty
    simp only [Option.bind_eq_bind, Option.bind_eq_some_iff, word?_eq_some_iff,
      minus?_eq_some_iff]
    constructor
    · rintro ⟨withFront, hfront, padded, hpadded, span, hspan, hcount⟩
      have hlength : s.padded = padded.toNat := by
        rw [Slide.padded]
        omega
      have hrest : s.span = span.toNat := by
        rw [Slide.span]
        omega
      rw [hrest, hlength]
      exact ⟨by omega, by omega, by omega, padded.toNat_lt_size, hcount⟩
    · rintro ⟨-, -, hfits, hlong, hcount⟩
      have hsum : s.size.toNat + s.before.toNat ≤ s.padded := Nat.le_add_right _ _
      have hspan : s.span + s.extent.toNat = s.padded := Nat.sub_add_cancel hfits
      -- the sums on the way are words, since the last of them is
      obtain ⟨withFront, hfront⟩ := exists_toNat_eq (Nat.lt_of_le_of_lt hsum hlong)
      obtain ⟨padded, hpadded⟩ := exists_toNat_eq hlong
      obtain ⟨span, hrest⟩ := exists_toNat_eq (n := s.span) (by omega)
      refine ⟨withFront, hfront, padded, ?_, span, ?_, ?_⟩
      · rw [hpadded, hfront]
        rfl
      · rw [hrest, hpadded, hspan]
      · rw [hrest, hcount]

/-! ## Positions over the plane -/

/-- The first element of position `j`, counted from the first padded one. -/
def start (s : Slide) (j : Nat) : Nat := j * s.stride.toNat

/-- At position `j` the window is over some element of the plane. -/
def Meets (s : Slide) (j : Nat) : Prop :=
  ∃ x, s.start j ≤ x ∧ x < s.start j + s.extent.toNat ∧
    s.before.toNat ≤ x ∧ x < s.before.toNat + s.size.toNat

/-- A partial last stride counts, and it takes the window past the plane: what it lacks of a whole
stride, with the padding behind the plane, is at least the length of the window. -/
def Overshoots (s : Slide) : Prop :=
  s.rounding = .ceiling ∧ s.span % s.stride.toNat ≠ 0 ∧
    s.extent.toNat + s.span % s.stride.toNat ≤ s.stride.toNat + s.after.toNat

instance (s : Slide) : Decidable s.Overshoots := inferInstanceAs (Decidable (_ ∧ _ ∧ _))

/-- A window and a plane with elements overlap when each starts before the other ends. -/
lemma meets_iff {j : Nat} (hsize : 1 ≤ s.size.toNat) (hextent : 1 ≤ s.extent.toNat) :
    s.Meets j ↔
      s.start j < s.before.toNat + s.size.toNat ∧ s.before.toNat < s.start j + s.extent.toNat := by
  constructor
  · rintro ⟨x, hfrom, hto, hbefore, hafter⟩
    exact ⟨Nat.lt_of_le_of_lt hfrom hafter, Nat.lt_of_le_of_lt hbefore hto⟩
  · rintro ⟨hstart, hend⟩
    -- the later of the two beginnings lies in both
    exact ⟨max (s.start j) s.before.toNat, by omega, by omega, by omega, by omega⟩

/-- With less padding in front than the window is long, no position ends before the plane. -/
lemma meets_iff_start_lt {j : Nat} (hsize : 1 ≤ s.size.toNat)
    (hbefore : s.before.toNat < s.extent.toNat) :
    s.Meets j ↔ s.start j < s.before.toNat + s.size.toNat := by
  rw [meets_iff hsize (by omega)]
  exact and_iff_left (by omega)

/-- The last position starts inside the plane unless the slide overshoots. -/
lemma start_last_lt_iff (hcount : s.count? = some count) (hafter : s.after.toNat < s.extent.toNat) :
    s.start (count.toNat - 1) < s.before.toNat + s.size.toNat ↔ ¬s.Overshoots := by
  obtain ⟨hstride, -, hfits, -, htotal⟩ := count?_eq_some_iff.1 hcount
  have hrest : s.span % s.stride.toNat ≤ s.span := Nat.mod_le _ _
  have hspan : s.span + s.extent.toNat = s.size.toNat + s.before.toNat + s.after.toNat :=
    Nat.sub_add_cancel hfits
  rw [start, htotal, Nat.add_sub_cancel, Rounding.quotient_mul, Overshoots]
  by_cases hpartial : s.rounding = .ceiling ∧ s.span % s.stride.toNat ≠ 0
  · rw [if_pos hpartial]
    obtain ⟨hceiling, hne⟩ := hpartial
    simp only [hceiling, hne, ne_eq, not_false_eq_true, true_and, Nat.not_le]
    omega
  · rw [if_neg hpartial]
    refine iff_of_true (by omega) fun h => hpartial ⟨h.1, h.2.1⟩

/-- **Which positions meet the plane.**  Where both paddings are shorter than the window, every
position but the last is over some element of the plane.  So is the last one, and with it all of
them, exactly when the slide does not overshoot. -/
theorem meets_iff_not_overshoots (hcount : s.count? = some count) (hsize : 1 ≤ s.size.toNat)
    (hbefore : s.before.toNat < s.extent.toNat) (hafter : s.after.toNat < s.extent.toNat) :
    (∀ j, j + 1 < count.toNat → s.Meets j) ∧
      ((∀ j < count.toNat, s.Meets j) ↔ ¬s.Overshoots) := by
  obtain ⟨hstride, -, hfits, -, htotal⟩ := count?_eq_some_iff.1 hcount
  have hspan : s.span + s.extent.toNat = s.size.toNat + s.before.toNat + s.after.toNat :=
    Nat.sub_add_cancel hfits
  have hearlier : ∀ j, j + 1 < count.toNat → s.Meets j := by
    intro j hj
    have hwhole : j < s.rounding.quotient s.span s.stride.toNat := by omega
    have hstart : s.start j ≤ s.span := Rounding.mul_le_of_lt_quotient hstride hwhole
    rw [meets_iff_start_lt hsize hbefore]
    omega
  refine ⟨hearlier, ?_⟩
  rw [← start_last_lt_iff hcount hafter, ← meets_iff_start_lt hsize hbefore]
  constructor
  · intro hall
    exact hall _ (by omega)
  · intro hlast j hj
    by_cases hlater : j + 1 < count.toNat
    · exact hearlier j hlater
    · have hj' : j = count.toNat - 1 := by omega
      rwa [hj']

end Slide

/-! ## The two axes of a plane -/

namespace PadStride

/-- The columns of a plane with a window that moves across. -/
def across (p : PadStride) (width windowWidth : UInt32) : Slide :=
  ⟨p.rounding, width, p.padding.left, p.padding.right, windowWidth, p.strideX⟩

/-- The rows of a plane with a window that moves down. -/
def down (p : PadStride) (height windowHeight : UInt32) : Slide :=
  ⟨p.rounding, height, p.padding.top, p.padding.bottom, windowHeight, p.strideY⟩

/-- The positions over a plane are counted on each axis alone. -/
lemma planeCount?_eq_some_iff {p : PadStride}
    {width height windowWidth windowHeight columns rows : UInt32} :
    p.planeCount? width height windowWidth windowHeight = some (columns, rows) ↔
      (p.across width windowWidth).count? = some columns ∧
        (p.down height windowHeight).count? = some rows := by
  simp only [planeCount?, Option.bind_eq_bind, Option.bind_eq_some_iff, Option.pure_def,
    Option.some.injEq, Prod.mk.injEq, across, down, Slide.count?]
  constructor
  · rintro ⟨_, hcolumns, _, hrows, rfl, rfl⟩
    exact ⟨hcolumns, hrows⟩
  · rintro ⟨hcolumns, hrows⟩
    exact ⟨_, hcolumns, _, hrows, rfl, rfl⟩

end PadStride

end NeuralBackend
