import NeuralBackend.Number.Word

/-!
# Sliding windows

A convolution or pooling layer slides a window over a padded plane.  This file counts the positions
of the window.

* `Padding` is what is added on the four sides of a plane, `PadStride` adds the stride and says how
  a partial last stride counts.
* `windowCount?` is the count along one axis.  It is worked out in words, one step after the other,
  and fails when the window or the stride is empty, or at the first step without a result: where the
  padding takes the axis beyond a 32-bit word, or where the window is longer than the padded axis.
* `PadStride.planeCount?` is the count on both axes of a plane.
-/

namespace NeuralBackend

/-- What happens to a last stride that does not fit whole: it is dropped, or it counts. -/
inductive Rounding
  | floor
  | ceiling
  deriving DecidableEq, Repr, Inhabited

/-- The quotient of `n` by `d`, rounded down or up. -/
def Rounding.quotient : Rounding → Nat → Nat → Nat
  | floor, n, d => n / d
  | ceiling, n, d => n / d + if n % d = 0 then 0 else 1

/-- The elements added on each side of a plane. -/
structure Padding where
  left : UInt32 := 0
  right : UInt32 := 0
  top : UInt32 := 0
  bottom : UInt32 := 0
  deriving DecidableEq, Repr, Inhabited

/-- The number of positions of a window of length `extent` that moves by `stride` over `size`
elements with padding before and after. -/
def windowCount? (rounding : Rounding) (size before after extent stride : UInt32) :
    Option UInt32 :=
  if stride = 0 ∨ extent = 0 then none
  else do
    let withFront ← word? (size.toNat + before.toNat)
    let padded ← word? (withFront.toNat + after.toNat)
    let span ← minus? padded extent
    word? (rounding.quotient span.toNat stride.toNat + 1)

/-- How a window moves over a plane. -/
structure PadStride where
  strideX : UInt32
  strideY : UInt32
  padding : Padding := {}
  rounding : Rounding := .floor
  deriving DecidableEq, Repr, Inhabited

/-- The number of window positions across and down a plane. -/
def PadStride.planeCount? (p : PadStride) (width height windowWidth windowHeight : UInt32) :
    Option (UInt32 × UInt32) := do
  let across ← windowCount? p.rounding width p.padding.left p.padding.right windowWidth p.strideX
  let down ← windowCount? p.rounding height p.padding.top p.padding.bottom windowHeight p.strideY
  return (across, down)

end NeuralBackend
