import NeuralBackend.Number.Single

/-!
# Half precision numbers

A half precision number is kept as its 16-bit IEEE 754 pattern: one sign bit, five exponent bits and
ten fraction bits.

* `Half.toSingle` widens without loss: a subnormal is normalised, all else is re-biased.
* `Single.toHalf` narrows to the nearest half precision number, ties to even, and goes to infinity
  beyond the range.

A NaN becomes a quiet NaN either way, with its sign and as much of its payload as there is room for.
-/

namespace NeuralBackend

/-- A half precision number, given by its bit pattern. -/
structure Half where
  bits : UInt16
  deriving DecidableEq, Repr, Inhabited

namespace Half

/-- The number with the given pattern, read modulo `2 ^ 16`. -/
def ofPattern (pattern : Nat) : Half := ⟨UInt16.ofNat pattern⟩

/-- Positive zero. -/
def zero : Half := ⟨0⟩

/-- The pattern without its sign bit. -/
def magnitude (h : Half) : Nat := h.bits.toNat % 0x8000

/-- Whether the sign bit is set. -/
def isNegative (h : Half) : Bool := 0x8000 ≤ h.bits.toNat

/-- The biased exponent field. -/
def exponent (h : Half) : Nat := h.magnitude / 0x400

/-- The fraction field. -/
def fraction (h : Half) : Nat := h.magnitude % 0x400

/-- Whether the pattern is one of the NaN patterns. -/
def isNaN (h : Half) : Bool := 0x7c00 < h.magnitude

/-- What a NaN carries: the fraction without the bit in front, which is set in a quiet NaN. -/
def payload (h : Half) : Nat := h.fraction % 0x200

/-- The magnitude of the single precision number of the same value.  A normal number keeps its
fraction and moves its exponent by the difference of the biases, `112`; a subnormal `f * 2 ^ -24`
becomes `1.… * 2 ^ (k - 24)` for the highest set bit `k` of `f`. -/
def widenedMagnitude (h : Half) : Nat :=
  let e := h.exponent
  let f := h.fraction
  if e = 31 then
    if f = 0 then 0x7f800000 else 0x7fc00000 + h.payload * 0x2000
  else if e = 0 then
    if f = 0 then 0
    else
      let k := f.log2
      (103 + k) * 0x800000 + ((f - (1 <<< k)) <<< (23 - k))
  else (e + 112) * 0x800000 + f * 0x2000

/-- The single precision number of the same value; a quiet NaN for a NaN. -/
def toSingle (h : Half) : Single :=
  Single.ofPattern ((if h.isNegative then 0x80000000 else 0) + h.widenedMagnitude)

end Half

/-! ## Narrowing -/

/-- The quotient of `m` by `2 ^ shift`, rounded to nearest, ties to even. -/
def roundShift (m shift : Nat) : Nat :=
  let unit := 1 <<< shift
  let q := m / unit
  let r := m % unit
  if unit < 2 * r ∨ (unit = 2 * r ∧ q % 2 = 1) then q + 1 else q

namespace Single

/-- The number with its implicit leading bit, as an integer multiple of `2 ^ (exponent - 150)`. -/
def significand (x : Single) : Nat :=
  if x.exponent = 0 then x.fraction else 0x800000 + x.fraction

/-- The magnitude of the nearest half precision number of a number that is not a NaN.  The rounded
significand is added to the exponent field, so a carry out of the fraction moves the exponent up by
itself; everything from `2 ^ 16` on stops at infinity. -/
def narrowedMagnitude (x : Single) : Nat :=
  let shift := if 113 ≤ x.exponent then 13 else 126 - Nat.max x.exponent 1
  Nat.min 0x7c00 ((x.exponent - 113) * 0x400 + roundShift x.significand shift)

/-- The nearest half precision number, ties to even; for a NaN, a quiet NaN with the upper part of
the payload. -/
def toHalf (x : Single) : Half :=
  Half.ofPattern ((if x.isNegative then 0x8000 else 0) +
    (if x.isNaN then 0x7e00 + x.payload / 0x2000 else x.narrowedMagnitude))

end Single

end NeuralBackend
