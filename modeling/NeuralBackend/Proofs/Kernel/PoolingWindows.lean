import NeuralBackend.Proofs.Kernel.Check.Windowed
import NeuralBackend.Proofs.Window

/-!
# What the windows of an accepted pooling cover

An average that leaves padding out divides by the number of elements under its window, so a window
over padding alone has nothing to divide by.  The check of a pooling asks for every padding to be
shorter than the window in its direction.  That keeps each window over the plane for as long as a
partial last stride is dropped; where it counts, the last window may still start behind the plane.

**`accepted_pooling_windows`** states this for both axes of an accepted pooling: only the last
column and the last row of the output can have a window without elements, and they do exactly where
the slide overshoots.
-/

namespace NeuralBackend.Kernel

variable {input output : Operand} {info : PoolingInfo}

/-- An accepted pooling has an output column and an output row for every position of its window. -/
lemma counts_of_checkPooling_ok (h : checkPooling input output info = .ok ()) :
    (info.window.across input.width info.sizeX).count? = some output.width ∧
      (info.window.down input.height info.sizeY).count? = some output.height := by
  obtain ⟨-, -, -, -, columns, rows, hplane, hbegins⟩ := checkPooling_ok_iff.1 h
  have hwidth : output.width = columns := hbegins 0 (by simp)
  have hheight : output.height = rows := hbegins 1 (by simp)
  rw [hwidth, hheight]
  exact PadStride.planeCount?_eq_some_iff.1 hplane

/-- **Windows of an accepted pooling.**  Over a plane with columns and rows, the window of every
output column but the last is over some column of the input, and that of every output row but the
last over some row.  On either axis this extends to the last one exactly when the slide does not
overshoot, which it never does where a partial last stride is dropped. -/
theorem accepted_pooling_windows (h : checkPooling input output info = .ok ())
    (hwidth : 1 ≤ input.width.toNat) (hheight : 1 ≤ input.height.toNat) :
    let columns := info.window.across input.width info.sizeX
    let rows := info.window.down input.height info.sizeY
    ((∀ j, j + 1 < output.width.toNat → columns.Meets j) ∧
      ((∀ j < output.width.toNat, columns.Meets j) ↔ ¬columns.Overshoots)) ∧
    ((∀ j, j + 1 < output.height.toNat → rows.Meets j) ∧
      ((∀ j < output.height.toNat, rows.Meets j) ↔ ¬rows.Overshoots)) ∧
    (info.window.rounding = .floor → ¬columns.Overshoots ∧ ¬rows.Overshoots) := by
  intro columns rows
  obtain ⟨hcolumns, hrows⟩ := counts_of_checkPooling_ok h
  obtain ⟨-, -, -, ⟨hleft, hright, htop, hbottom⟩, -⟩ := checkPooling_ok_iff.1 h
  rw [UInt32.lt_iff_toNat_lt] at hleft hright htop hbottom
  refine ⟨Slide.meets_iff_not_overshoots hcolumns hwidth hleft hright,
    Slide.meets_iff_not_overshoots hrows hheight htop hbottom, fun hfloor => ?_⟩
  have hnever : ∀ s : Slide, s.rounding = .floor → ¬s.Overshoots := by
    rintro s hs ⟨hceiling, -⟩
    rw [hs] at hceiling
    cases hceiling
  exact ⟨hnever columns hfloor, hnever rows hfloor⟩

/-- An average over windows of two by two that move by two, with one column of padding on the right
and partial strides counted. -/
def overhangingPooling : PoolingInfo where
  poolType := .avg
  sizeX := 2
  sizeY := 2
  window := { strideX := 2, strideY := 2, padding := { right := 1 }, rounding := .ceiling }
  excludePadding := true

/-- Over two columns it has two output columns: the first window holds both columns of the input,
and the last holds none. -/
theorem accepted_pooling_windows_of_overhang :
    let input : Operand := ⟨[2, 2, 1, 1], .float32, {}⟩
    let output : Operand := ⟨[2, 1, 1, 1], .float32, {}⟩
    let columns := overhangingPooling.window.across input.width overhangingPooling.sizeX
    let rows := overhangingPooling.window.down input.height overhangingPooling.sizeY
    checkPooling input output overhangingPooling = .ok () ∧
      columns.Meets 0 ∧ ¬columns.Meets 1 ∧ rows.Meets 0 := by
  intro input output columns rows
  have hok : checkPooling input output overhangingPooling = .ok () := by decide
  obtain ⟨⟨hfirst, hcolumns⟩, ⟨-, hrows⟩, -⟩ :=
    accepted_pooling_windows hok (by decide) (by decide)
  have hmeets : columns.Meets 0 := hfirst 0 (by decide)
  have hmisses : ¬columns.Meets 1 := by
    intro hlast
    refine hcolumns.1 (fun j hj => ?_) (by decide)
    have htwo : j < 2 := hj
    obtain rfl | rfl : j = 0 ∨ j = 1 := by omega
    · exact hmeets
    · exact hlast
  exact ⟨hok, hmeets, hmisses, hrows.2 (by decide) 0 (by decide)⟩

/-- Not every window of an accepted pooling is over the plane. -/
theorem not_accepted_windows_meet :
    ¬∀ (input output : Operand) (info : PoolingInfo), checkPooling input output info = .ok () →
      1 ≤ input.width.toNat → 1 ≤ input.height.toNat →
      (∀ j < output.width.toNat, (info.window.across input.width info.sizeX).Meets j) ∧
        ∀ j < output.height.toNat, (info.window.down input.height info.sizeY).Meets j := by
  intro h
  obtain ⟨hcolumns, -⟩ := h ⟨[2, 2, 1, 1], .float32, {}⟩ ⟨[2, 1, 1, 1], .float32, {}⟩
    overhangingPooling (by decide) (by decide) (by decide)
  -- the second window starts behind both columns
  obtain ⟨x, hfrom, -, -, hto⟩ := hcolumns 1 (by decide)
  exact absurd (Nat.lt_of_le_of_lt hfrom hto) (by decide)

end NeuralBackend.Kernel
