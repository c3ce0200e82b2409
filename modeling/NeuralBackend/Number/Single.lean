/-!
# Single precision numbers

A single precision number is kept as its 32-bit IEEE 754 pattern, so equality of values is equality
of patterns and every question about sign, order or rounding is a question about one natural number.

* `Single` is the pattern; `Single.magnitude` is the pattern without its sign.
* `Single.lt`, `Single.le` and `Single.numEq` compare as IEEE 754 does: a NaN compares with nothing
  and the two zeros are equal.
* `Single.max` and `Single.min` ignore a NaN operand.
* `Single.floor` works on the pattern alone.
* The arithmetic operations round to nearest, ties to even.
-/

namespace NeuralBackend

/-- A single precision number, given by its bit pattern: one sign bit, eight exponent bits and
twenty-three fraction bits. -/
structure Single where
  bits : UInt32
  deriving DecidableEq, Repr, Inhabited

namespace Single

/-! ## Fields of the pattern -/

/-- The number with the given pattern, read modulo `2 ^ 32`. -/
def ofPattern (pattern : Nat) : Single := ⟨UInt32.ofNat pattern⟩

/-- The pattern without its sign bit. -/
def magnitude (x : Single) : Nat := x.bits.toNat % 0x80000000

/-- Whether the sign bit is set. -/
def isNegative (x : Single) : Bool := 0x80000000 ≤ x.bits.toNat

/-- The biased exponent field. -/
def exponent (x : Single) : Nat := x.magnitude / 0x800000

/-- The fraction field. -/
def fraction (x : Single) : Nat := x.magnitude % 0x800000

/-- Whether the pattern is one of the NaN patterns. -/
def isNaN (x : Single) : Bool := 0x7f800000 < x.magnitude

/-- What a NaN carries: the fraction without the bit in front, which is set in a quiet NaN. -/
def payload (x : Single) : Nat := x.fraction % 0x400000

/-- Positive zero. -/
def zero : Single := ⟨0⟩

/-- The number one. -/
def one : Single := ⟨0x3f800000⟩

/-! ## Comparison -/

/-- The position of a number that is not a NaN in the numeric order; both zeros are at `0`. -/
def position (x : Single) : Int :=
  if x.isNegative then -(x.magnitude : Int) else x.magnitude

/-- IEEE 754 "less than". -/
def lt (x y : Single) : Bool :=
  !x.isNaN && !y.isNaN && decide (x.position < y.position)

/-- IEEE 754 "less than or equal". -/
def le (x y : Single) : Bool :=
  !x.isNaN && !y.isNaN && decide (x.position ≤ y.position)

/-- IEEE 754 equality. -/
def numEq (x y : Single) : Bool :=
  !x.isNaN && !y.isNaN && decide (x.position = y.position)

/-- The larger operand; a NaN gives way to the other operand. -/
def max (x y : Single) : Single :=
  if x.isNaN then y else if y.isNaN then x else if x.lt y then y else x

/-- The smaller operand; a NaN gives way to the other operand. -/
def min (x y : Single) : Single :=
  if x.isNaN then y else if y.isNaN then x else if y.lt x then y else x

/-! ## Sign and rounding to an integer -/

/-- The number without its sign. -/
def abs (x : Single) : Single := ofPattern x.magnitude

/-- The number with the other sign. -/
def neg (x : Single) : Single := ofPattern (x.bits.toNat + 0x80000000)

/-- The magnitude of the greatest integer that is not above a number.  Below one in magnitude it is
read off the sign; from `2 ^ 23` on every number is an integer; between them the fraction bits below
the unit are dropped, and a negative number then moves one unit away from zero. -/
def flooredMagnitude (x : Single) : Nat :=
  if x.exponent < 127 then
    if x.isNegative ∧ x.magnitude ≠ 0 then one.magnitude else 0
  else if 150 ≤ x.exponent then x.magnitude
  else
    let unit := 1 <<< (150 - x.exponent)
    let below := x.magnitude % unit
    if x.isNegative ∧ below ≠ 0 then x.magnitude - below + unit else x.magnitude - below

/-- The greatest integer that is not above the number; a quiet NaN for a NaN. -/
def floor (x : Single) : Single :=
  ofPattern ((if x.isNegative then 0x80000000 else 0) +
    (if x.isNaN then 0x7fc00000 + x.payload else x.flooredMagnitude))

/-! ## Arithmetic -/

/-- The number as a machine float. -/
def toFloat (x : Single) : Float32 := Float32.ofBits x.bits

/-- The number that a machine float holds. -/
def ofFloat (x : Float32) : Single := ⟨x.toBits⟩

/-- The rounded sum. -/
def add (x y : Single) : Single := ofFloat (x.toFloat + y.toFloat)

/-- The rounded product. -/
def mul (x y : Single) : Single := ofFloat (x.toFloat * y.toFloat)

/-- The rounded quotient. -/
def div (x y : Single) : Single := ofFloat (x.toFloat / y.toFloat)

/-- The rounded square root; a NaN below zero. -/
def sqrt (x : Single) : Single := ofFloat x.toFloat.sqrt

/-- The exponential, infinite above about 88.72. -/
def exp (x : Single) : Single := ofFloat x.toFloat.exp

/-- The hyperbolic tangent. -/
def tanh (x : Single) : Single := ofFloat x.toFloat.tanh

/-- The natural logarithm of one more than the number; a NaN below minus one.  It is worked out in
double precision; there `log (1 + d)` loses the low bits of a small `d`, and the factor
`d / ((1 + d) - 1)` restores them. -/
def log1p (x : Single) : Single :=
  let d := x.toFloat.toFloat
  let u := 1.0 + d
  let r := if u == 1.0 then d else if u.isInf then u.log else u.log * (d / (u - 1.0))
  ofFloat r.toFloat32

end Single

end NeuralBackend
