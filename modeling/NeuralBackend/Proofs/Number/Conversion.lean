import Mathlib.Data.Nat.Dist
import Mathlib.Order.Monotone.Basic
import Mathlib.Tactic.Lemma
import Mathlib.Tactic.Ring
import NeuralBackend.Number.Half

/-!
# Conversions between half and single precision

What the conversions are for is said by the values of the numbers, not by their patterns.  Both
kinds of number are whole multiples of `2 ^ -149`, the smallest single precision number, so all
values here are natural numbers, and the sign stands apart.

**Values.**  `Half.units` is the value of a half precision magnitude.  Infinity counts as `2 ^ 16`,
the number that would come next; with this the values are strictly increasing
(`Half.units_strictMono`), and in steps of one size inside a binade (`Half.units_place`).

**Widening** keeps sign and value (`Half.WidensTo`).  The result is zero, infinity or a normal
number, also where the highest bit of a subnormal has to be moved to the front
(`Half.exists_widenedMagnitude`).

**Narrowing** keeps the sign and goes to the nearest magnitude, of two that are equally near to the
even one (`Half.Nearest`, `Single.NarrowsTo`).  A value lies between two neighbouring magnitudes and
rounding its significand picks one of them, whether they are subnormal or normal, and also where
they are in different binades (`Single.nearest_narrowedMagnitude`).

A NaN has no value.  It stays a NaN, a quiet one, with as much of its payload as there is room for.

**`Half.eq_of_widensTo_of_narrowsTo`** follows from these two properties alone: what is widened and
narrowed comes back.
-/

namespace NeuralBackend

/-! ## Values -/

/-- The value of the half precision numbers with magnitude `m`, in units of `2 ^ -149`. -/
def Half.units (m : Nat) : Nat :=
  if m < 0x400 then m * 2 ^ 125 else (0x400 + m % 0x400) * 2 ^ (m / 0x400 + 124)

/-- The value of a single precision number without its sign, in units of `2 ^ -149`. -/
def Single.units (x : Single) : Nat := x.significand * 2 ^ (Nat.max x.exponent 1 - 1)

namespace Half

/-- The magnitudes of a binade and the one after it.  The first binade goes down to zero. -/
lemma units_place {e q : Nat} (hq : q ≤ 0x800) (he : e = 0 ∨ 0x400 ≤ q) :
    units (e * 0x400 + q) = q * 2 ^ (e + 125) := by
  unfold units
  rcases Nat.lt_or_ge q 0x400 with hsub | hnormal
  · obtain rfl : e = 0 := by omega
    rw [Nat.zero_mul, Nat.zero_add, if_pos hsub]
  · rw [if_neg (by omega)]
    rcases Nat.lt_or_ge q 0x800 with hlt | hge
    · have hfraction : 0x400 + (e * 0x400 + q) % 0x400 = q := by omega
      have hexponent : (e * 0x400 + q) / 0x400 = e + 1 := by omega
      rw [hfraction, hexponent]
    · -- the first magnitude of the next binade
      obtain rfl : q = 0x800 := by omega
      have hfraction : (e * 0x400 + 0x800) % 0x400 = 0 := by omega
      have hexponent : (e * 0x400 + 0x800) / 0x400 = e + 2 := by omega
      rw [hfraction, hexponent]
      ring

lemma exists_place (m : Nat) :
    ∃ e q, m = e * 0x400 + q ∧ q < 0x800 ∧ (e = 0 ∨ 0x400 ≤ q) := by
  rcases Nat.lt_or_ge m 0x400 with hsub | hnormal
  · exact ⟨0, m, by omega, by omega, .inl rfl⟩
  · exact ⟨m / 0x400 - 1, 0x400 + m % 0x400, by omega, by omega, .inr (by omega)⟩

lemma units_strictMono : StrictMono units := by
  refine strictMono_nat_of_lt_succ fun m => ?_
  obtain ⟨e, q, rfl, hq, he⟩ := exists_place m
  have hnext : units (e * 0x400 + (q + 1)) = (q + 1) * 2 ^ (e + 125) :=
    units_place hq (he.imp_right Nat.le_succ_of_le)
  rw [Nat.add_assoc, hnext, units_place hq.le he]
  exact Nat.mul_lt_mul_of_pos_right (Nat.lt_succ_self q) (Nat.two_pow_pos _)

end Half

namespace Single

variable {x : Single}

lemma units_of_magnitude_eq_zero (h : x.magnitude = 0) : x.units = 0 := by
  have hexponent : x.exponent = 0 := by rw [exponent, h]
  have hfraction : x.fraction = 0 := by rw [fraction, h]
  rw [units, significand, if_pos hexponent, hfraction, Nat.zero_mul]

/-- The value of a normal number. -/
lemma units_of_magnitude_eq {e f : Nat} (h : x.magnitude = (e + 1) * 0x800000 + f)
    (hf : f < 0x800000) : x.units = (0x800000 + f) * 2 ^ e := by
  have hexponent : x.exponent = e + 1 := by
    unfold exponent
    omega
  have hfraction : x.fraction = f := by
    unfold fraction
    omega
  have hmax : Nat.max (e + 1) 1 = e + 1 := Nat.max_eq_left (Nat.le_add_left 1 e)
  rw [units, significand, if_neg (by omega), hexponent, hfraction, hmax, Nat.add_sub_cancel]

end Single

/-! ## Sign and magnitude -/

section Signed

variable {top m : Nat} {negative : Bool}

lemma signed_lt (hm : m < top) : (if negative then top else 0) + m < 2 * top := by
  split_ifs <;> omega

lemma signed_mod (hm : m < top) : ((if negative then top else 0) + m) % top = m := by
  split_ifs
  · rw [Nat.add_mod_left, Nat.mod_eq_of_lt hm]
  · rw [Nat.zero_add, Nat.mod_eq_of_lt hm]

lemma decide_le_signed (hm : m < top) :
    decide (top ≤ (if negative then top else 0) + m) = negative := by
  cases negative with
  | true => exact decide_eq_true (Nat.le_add_right top m)
  | false => exact decide_eq_false (by simpa using hm)

end Signed

namespace Half

variable {h h' : Half} {negative : Bool} {m : Nat}

lemma magnitude_lt (h : Half) : h.magnitude < 0x8000 := Nat.mod_lt _ (by decide)

lemma magnitude_le_of_isNaN (hnan : h.isNaN = false) : h.magnitude ≤ 0x7c00 :=
  not_lt.1 (of_decide_eq_false hnan)

lemma payload_lt (h : Half) : h.payload < 0x200 := Nat.mod_lt _ (by decide)

/-- The payload of a quiet NaN is what its magnitude holds beside the bits that make it one. -/
lemma payload_of_magnitude_eq (hm : h.magnitude = 0x7e00 + m) (hlt : m < 0x200) :
    h.payload = m := by
  unfold payload fraction
  omega

/-- A number is its sign and its magnitude. -/
lemma eq_of_magnitude_eq (hsign : h.isNegative = h'.isNegative) (hm : h.magnitude = h'.magnitude) :
    h = h' := by
  have hbits : h.bits.toNat = h'.bits.toNat := by
    have := h.bits.toNat_lt
    have := h'.bits.toNat_lt
    simp only [isNegative, decide_eq_decide, magnitude] at hsign hm
    omega
  cases h
  cases h'
  exact congrArg _ (UInt16.toNat_inj.1 hbits)

lemma toNat_ofPattern (hm : m < 0x8000) :
    (ofPattern ((if negative then 0x8000 else 0) + m)).bits.toNat =
      (if negative then 0x8000 else 0) + m :=
  UInt16.toNat_ofNat_of_lt' (signed_lt hm)

lemma isNegative_ofPattern (negative : Bool) (hm : m < 0x8000) :
    (ofPattern ((if negative then 0x8000 else 0) + m)).isNegative = negative := by
  rw [isNegative, toNat_ofPattern hm]
  exact decide_le_signed hm

lemma magnitude_ofPattern (negative : Bool) (hm : m < 0x8000) :
    (ofPattern ((if negative then 0x8000 else 0) + m)).magnitude = m := by
  rw [magnitude, toNat_ofPattern hm, signed_mod hm]

end Half

namespace Single

variable {x : Single} {negative : Bool} {m : Nat}

lemma payload_lt (x : Single) : x.payload < 0x400000 := Nat.mod_lt _ (by decide)

/-- The payload of a quiet NaN is what its magnitude holds beside the bits that make it one. -/
lemma payload_of_magnitude_eq (hm : x.magnitude = 0x7fc00000 + m) (hlt : m < 0x400000) :
    x.payload = m := by
  unfold payload fraction
  omega

lemma toNat_ofPattern (hm : m < 0x80000000) :
    (ofPattern ((if negative then 0x80000000 else 0) + m)).bits.toNat =
      (if negative then 0x80000000 else 0) + m :=
  UInt32.toNat_ofNat_of_lt' (signed_lt hm)

lemma isNegative_ofPattern (negative : Bool) (hm : m < 0x80000000) :
    (ofPattern ((if negative then 0x80000000 else 0) + m)).isNegative = negative := by
  rw [isNegative, toNat_ofPattern hm]
  exact decide_le_signed hm

lemma magnitude_ofPattern (negative : Bool) (hm : m < 0x80000000) :
    (ofPattern ((if negative then 0x80000000 else 0) + m)).magnitude = m := by
  rw [magnitude, toNat_ofPattern hm, signed_mod hm]

end Single

/-! ## Widening -/

namespace Half

/-- The single precision number `x` has sign and value of `h`.  Where `h` is a NaN, so is `x`, with
the same payload in front and without signalling. -/
structure WidensTo (h : Half) (x : Single) : Prop where
  isNegative_eq : x.isNegative = h.isNegative
  units_eq : h.magnitude < 0x7c00 → x.units = units h.magnitude
  infinite : h.magnitude = 0x7c00 → x.magnitude = 0x7f800000
  nan : h.isNaN = true → 0x7fc00000 ≤ x.magnitude ∧ x.payload = h.payload * 0x2000

/-- The highest bit `k` of a fraction can be moved to the front of a significand. -/
lemma normalise {f k : Nat} (hk : k < 10) (hlow : 2 ^ k ≤ f) (hhigh : f < 2 ^ (k + 1)) :
    (f - 2 ^ k) * 2 ^ (23 - k) < 0x800000 ∧
      0x800000 + (f - 2 ^ k) * 2 ^ (23 - k) = f * 2 ^ (23 - k) := by
  have hfront : 0x800000 = 2 ^ k * 2 ^ (23 - k) := by
    rw [← pow_add, Nat.add_sub_cancel' (by omega)]
    rfl
  constructor
  · rw [hfront]
    exact Nat.mul_lt_mul_of_pos_right (by omega) (Nat.two_pow_pos _)
  · rw [hfront, ← Nat.add_mul, Nat.add_sub_cancel' hlow]

/-- A number other than zero and infinity is widened to a normal number of the same value, given by
its exponent and its fraction. -/
lemma exists_widenedMagnitude {h : Half} (hpos : 0 < h.magnitude) (hfinite : h.magnitude < 0x7c00) :
    ∃ e f, h.widenedMagnitude = (e + 1) * 0x800000 + f ∧ e < 254 ∧ f < 0x800000 ∧
      (0x800000 + f) * 2 ^ e = units h.magnitude := by
  have hfraction : h.fraction < 0x400 := Nat.mod_lt _ (by decide)
  have hmagnitude : h.magnitude = h.exponent * 0x400 + h.fraction := (Nat.div_add_mod' _ _).symm
  by_cases hsub : h.exponent = 0
  · have hf : h.fraction ≠ 0 := by omega
    let k := h.fraction.log2
    have hk : k < 10 := (Nat.log2_lt hf).2 hfraction
    -- the bit in front of the others becomes the implicit one
    obtain ⟨hrest, hfront⟩ := normalise hk (Nat.log2_self_le hf) Nat.lt_log2_self
    refine ⟨102 + k, (h.fraction - 2 ^ k) * 2 ^ (23 - k), ?_, by omega, hrest, ?_⟩
    · rw [widenedMagnitude, if_neg (by omega), if_pos hsub, if_neg hf, Nat.add_right_comm 102 k 1]
      simp only [Nat.shiftLeft_eq, Nat.one_mul, k]
    · have hfraction' : h.magnitude = h.fraction := by omega
      have hexponent : 23 - k + (102 + k) = 125 := by omega
      rw [hfront, Nat.mul_assoc, ← pow_add, hexponent, units, if_pos (by omega), hfraction']
  · refine ⟨h.exponent + 111, h.fraction * 0x2000, ?_, by omega, by omega, ?_⟩
    · rw [widenedMagnitude, if_neg (by omega), if_neg hsub]
    · rw [units, if_neg (by omega)]
      change _ = (0x400 + h.fraction) * 2 ^ (h.exponent + 124)
      ring

lemma widenedMagnitude_of_zero {h : Half} (hzero : h.magnitude = 0) : h.widenedMagnitude = 0 := by
  have hexponent : h.exponent = 0 := by rw [exponent, hzero]
  have hfraction : h.fraction = 0 := by rw [fraction, hzero]
  rw [widenedMagnitude, if_neg (by omega), if_pos hexponent, if_pos hfraction]

/-- Infinity and the NaNs keep the highest exponent. -/
lemma widenedMagnitude_of_le {h : Half} (hle : 0x7c00 ≤ h.magnitude) :
    h.widenedMagnitude =
      if h.magnitude = 0x7c00 then 0x7f800000 else 0x7fc00000 + h.payload * 0x2000 := by
  have hlt := h.magnitude_lt
  have hexponent : h.exponent = 31 := by
    unfold exponent
    omega
  have hfraction : h.fraction = 0 ↔ h.magnitude = 0x7c00 := by
    unfold fraction
    omega
  rw [widenedMagnitude, if_pos hexponent]
  simp only [hfraction]

lemma widenedMagnitude_of_infinity {h : Half} (hinfinite : h.magnitude = 0x7c00) :
    h.widenedMagnitude = 0x7f800000 := by
  rw [widenedMagnitude_of_le hinfinite.ge, if_pos hinfinite]

lemma widenedMagnitude_of_isNaN {h : Half} (hnan : 0x7c00 < h.magnitude) :
    h.widenedMagnitude = 0x7fc00000 + h.payload * 0x2000 := by
  rw [widenedMagnitude_of_le hnan.le, if_neg hnan.ne']

/-- What is not a NaN is not widened to one. -/
lemma widenedMagnitude_le {h : Half} (hle : h.magnitude ≤ 0x7c00) :
    h.widenedMagnitude ≤ 0x7f800000 := by
  rcases Nat.lt_or_eq_of_le hle with hfinite | hinfinite
  · rcases Nat.eq_zero_or_pos h.magnitude with hzero | hpos
    · rw [widenedMagnitude_of_zero hzero]
      decide
    · obtain ⟨e, f, heq, he, hf, -⟩ := exists_widenedMagnitude hpos hfinite
      omega
  · exact (widenedMagnitude_of_infinity hinfinite).le

lemma widenedMagnitude_lt (h : Half) : h.widenedMagnitude < 0x80000000 := by
  rcases Nat.lt_or_ge 0x7c00 h.magnitude with hnan | hle
  · have hlt := h.payload_lt
    rw [widenedMagnitude_of_isNaN hnan]
    omega
  · exact (widenedMagnitude_le hle).trans_lt (by decide)

lemma magnitude_toSingle (h : Half) : h.toSingle.magnitude = h.widenedMagnitude :=
  Single.magnitude_ofPattern _ h.widenedMagnitude_lt

/-- **Widening is exact.** -/
theorem widensTo_toSingle (h : Half) : h.WidensTo h.toSingle := by
  have hmagnitude := h.magnitude_toSingle
  refine ⟨Single.isNegative_ofPattern _ h.widenedMagnitude_lt, fun hfinite => ?_,
    fun hinfinite => ?_, fun hnan => ?_⟩
  · rcases Nat.eq_zero_or_pos h.magnitude with hzero | hpos
    · rw [widenedMagnitude_of_zero hzero] at hmagnitude
      rw [Single.units_of_magnitude_eq_zero hmagnitude, hzero]
      rfl
    · obtain ⟨e, f, hwidened, -, hf, hvalue⟩ := exists_widenedMagnitude hpos hfinite
      rw [Single.units_of_magnitude_eq (hmagnitude.trans hwidened) hf, hvalue]
  · rw [hmagnitude, widenedMagnitude_of_infinity hinfinite]
  · rw [widenedMagnitude_of_isNaN (of_decide_eq_true hnan)] at hmagnitude
    have hlt := h.payload_lt
    exact ⟨by omega, Single.payload_of_magnitude_eq hmagnitude (by omega)⟩

end Half

/-! ## Narrowing -/

namespace Half

/-- Of the magnitudes up to infinity, `m` is nearest to a value, and where another one is as near,
it is the even one. -/
structure Nearest (value m : Nat) : Prop where
  le_infinity : m ≤ 0x7c00
  nearest : ∀ m' ≤ 0x7c00, Nat.dist (units m) value ≤ Nat.dist (units m') value
  even : ∀ m' ≤ 0x7c00, m' ≠ m → Nat.dist (units m') value = Nat.dist (units m) value → m % 2 = 0

/-- A value between two neighbours is nearest to one of them. -/
lemma Nearest.of_between {low gap rest : Nat} (hgap : units (low + 1) = units low + gap)
    (hrest : rest < gap) (hlow : low + 1 ≤ 0x7c00) :
    Nearest (units low + rest)
      (if gap < 2 * rest ∨ (gap = 2 * rest ∧ low % 2 = 1) then low + 1 else low) := by
  -- every other magnitude is further out, on one side or the other
  have hother : ∀ m, units m < units low ∨ m = low ∨ m = low + 1 ∨ units (low + 1) < units m := by
    intro m
    rcases Nat.lt_trichotomy m low with h | h | h
    · exact .inl (units_strictMono h)
    · exact .inr (.inl h)
    · rcases Nat.eq_or_lt_of_le h with h | h
      · exact .inr (.inr (.inl h.symm))
      · exact .inr (.inr (.inr (units_strictMono h)))
  split_ifs with hup
  · refine ⟨hlow, fun m _ => ?_, fun m _ hne htie => ?_⟩
    · rcases hother m with h | rfl | rfl | h <;> simp only [Nat.dist] <;> omega
    · simp only [Nat.dist] at htie
      rcases hother m with h | rfl | rfl | h <;> omega
  · refine ⟨Nat.le_of_succ_le hlow, fun m _ => ?_, fun m _ hne htie => ?_⟩
    · rcases hother m with h | rfl | rfl | h <;> simp only [Nat.dist] <;> omega
    · simp only [Nat.dist] at htie
      rcases hother m with h | rfl | rfl | h <;> omega

/-- All values from `2 ^ 16` on are nearest to infinity. -/
lemma Nearest.infinity {value : Nat} (h : units 0x7c00 ≤ value) : Nearest value 0x7c00 := by
  refine ⟨le_rfl, fun m hm => ?_, fun _ _ _ _ => rfl⟩
  have hle : units m ≤ units 0x7c00 := units_strictMono.monotone hm
  simp only [Nat.dist]
  omega

end Half

lemma roundShift_eq (m shift : Nat) :
    roundShift m shift =
      if 2 ^ shift < 2 * (m % 2 ^ shift) ∨
          (2 ^ shift = 2 * (m % 2 ^ shift) ∧ m / 2 ^ shift % 2 = 1) then
        m / 2 ^ shift + 1
      else m / 2 ^ shift := by
  simp only [roundShift, Nat.one_shiftLeft]

namespace Single

variable {x : Single}

lemma fraction_lt (x : Single) : x.fraction < 0x800000 := Nat.mod_lt _ (by decide)

lemma significand_lt (x : Single) : x.significand < 0x1000000 := by
  have := x.fraction_lt
  unfold significand
  split_ifs <;> omega

lemma le_significand (h : x.exponent ≠ 0) : 0x800000 ≤ x.significand := by
  rw [significand, if_neg h]
  exact Nat.le_add_right _ _

/-- The number of places that narrowing cuts off the significand. -/
def cut (x : Single) : Nat := if 113 ≤ x.exponent then 13 else 126 - Nat.max x.exponent 1

/-- The half precision magnitude that is left when they are dropped. -/
def truncated (x : Single) : Nat := (x.exponent - 113) * 0x400 + x.significand / 2 ^ x.cut

/-- The value of the last place that is kept, whether it is that of all subnormals or that of a
binade. -/
def step (x : Single) : Nat := 2 ^ (x.exponent - 113 + 125)

/-- The value of what is dropped. -/
def dropped (x : Single) : Nat := x.significand % 2 ^ x.cut * 2 ^ (Nat.max x.exponent 1 - 1)

lemma step_eq (x : Single) : x.step = 2 ^ x.cut * 2 ^ (Nat.max x.exponent 1 - 1) := by
  have hsum : x.exponent - 113 + 125 = x.cut + (Nat.max x.exponent 1 - 1) := by
    simp only [cut, Nat.max_def]
    split_ifs <;> omega
  rw [step, hsum, pow_add]

lemma dropped_lt_step (x : Single) : x.dropped < x.step := by
  rw [step_eq, dropped]
  exact Nat.mul_lt_mul_of_pos_right (Nat.mod_lt _ (Nat.two_pow_pos _)) (Nat.two_pow_pos _)

/-- What is kept of the significand is that of a half precision number. -/
lemma kept_place (x : Single) :
    x.significand / 2 ^ x.cut < 0x800 ∧
      (x.exponent - 113 = 0 ∨ 0x400 ≤ x.significand / 2 ^ x.cut) := by
  constructor
  · have hcut : 13 ≤ x.cut := by
      simp only [cut, Nat.max_def]
      split_ifs <;> omega
    refine Nat.div_lt_of_lt_mul (x.significand_lt.trans_le ?_)
    exact Nat.mul_le_mul_right 0x800 (Nat.pow_le_pow_right Nat.two_pos hcut)
  · rcases Nat.eq_zero_or_pos (x.exponent - 113) with h | h
    · exact .inl h
    · have hcut : x.cut = 13 := if_pos (by omega)
      have hnormal := x.le_significand (by omega)
      rw [hcut]
      omega

lemma truncated_succ (x : Single) :
    x.truncated + 1 = (x.exponent - 113) * 0x400 + (x.significand / 2 ^ x.cut + 1) :=
  Nat.add_assoc _ _ _

/-- Infinity, at the most, is next. -/
lemma truncated_lt_infinity (h : x.exponent < 143) : x.truncated < 0x7c00 := by
  have := x.kept_place.1
  unfold truncated
  omega

lemma units_truncated (x : Single) :
    Half.units x.truncated = x.significand / 2 ^ x.cut * x.step :=
  Half.units_place x.kept_place.1.le x.kept_place.2

lemma units_truncated_succ (x : Single) :
    Half.units (x.truncated + 1) = Half.units x.truncated + x.step := by
  obtain ⟨hlt, hplace⟩ := x.kept_place
  rw [units_truncated, ← Nat.succ_mul, truncated_succ]
  exact Half.units_place hlt (hplace.imp_right Nat.le_succ_of_le)

lemma units_eq (x : Single) : x.units = Half.units x.truncated + x.dropped := by
  rw [units_truncated, step_eq, ← Nat.mul_assoc, dropped, ← Nat.add_mul, Nat.div_add_mod']
  rfl

lemma narrowedMagnitude_eq_min (x : Single) :
    x.narrowedMagnitude =
      Nat.min 0x7c00 ((x.exponent - 113) * 0x400 + roundShift x.significand x.cut) := rfl

/-- Below `2 ^ 16` narrowing goes up from the truncated magnitude by more than half a step, and by
half a step from an odd one. -/
lemma narrowedMagnitude_eq (h : x.exponent < 143) :
    x.narrowedMagnitude =
      if x.step < 2 * x.dropped ∨ (x.step = 2 * x.dropped ∧ x.truncated % 2 = 1) then
        x.truncated + 1
      else x.truncated := by
  have hbound := truncated_lt_infinity h
  have hup : x.step < 2 * x.dropped ∨ (x.step = 2 * x.dropped ∧ x.truncated % 2 = 1) ↔
      2 ^ x.cut < 2 * (x.significand % 2 ^ x.cut) ∨
        (2 ^ x.cut = 2 * (x.significand % 2 ^ x.cut) ∧ x.significand / 2 ^ x.cut % 2 = 1) := by
    have hunit := Nat.two_pow_pos (Nat.max x.exponent 1 - 1)
    have hparity : x.truncated % 2 = x.significand / 2 ^ x.cut % 2 := by
      unfold truncated
      omega
    rw [step_eq, dropped, ← Nat.mul_assoc, Nat.mul_lt_mul_right hunit, Nat.mul_left_inj hunit.ne',
      hparity]
  have hmin : ∀ m ≤ 0x7c00, Nat.min 0x7c00 m = m := fun m => Nat.min_eq_right
  rw [narrowedMagnitude_eq_min, roundShift_eq]
  simp only [hup]
  -- either way the bound is not reached
  split_ifs
  · rw [← truncated_succ, hmin _ hbound]
  · exact hmin _ hbound.le

/-- From `2 ^ 16` on narrowing stops at infinity. -/
lemma narrowedMagnitude_of_le (h : 143 ≤ x.exponent) : x.narrowedMagnitude = 0x7c00 := by
  have hcut : x.cut = 13 := if_pos (by omega)
  have hnormal := x.le_significand (by omega)
  have hkept : 0x400 ≤ roundShift x.significand x.cut := by
    rw [roundShift_eq, hcut]
    split_ifs <;> omega
  rw [narrowedMagnitude_eq_min]
  exact Nat.min_eq_left (by omega)

lemma units_infinity_le (h : 143 ≤ x.exponent) : Half.units 0x7c00 ≤ x.units := by
  have hinfinity : Half.units 0x7c00 = 0x800000 * 2 ^ 142 := by decide
  have hnormal := x.le_significand (by omega)
  have hexponent : 142 ≤ Nat.max x.exponent 1 - 1 := by
    have hmax : x.exponent ≤ Nat.max x.exponent 1 := Nat.le_max_left _ _
    omega
  rw [hinfinity]
  exact Nat.mul_le_mul hnormal (Nat.pow_le_pow_right Nat.two_pos hexponent)

lemma nearest_narrowedMagnitude (x : Single) : Half.Nearest x.units x.narrowedMagnitude := by
  rcases Nat.lt_or_ge x.exponent 143 with h | h
  · rw [narrowedMagnitude_eq h, units_eq]
    exact .of_between x.units_truncated_succ x.dropped_lt_step (truncated_lt_infinity h)
  · rw [narrowedMagnitude_of_le h]
    exact .infinity (units_infinity_le h)

end Single

/-- The half precision number `h` has the sign of `x` and is nearest to it.  Where `x` is a NaN, so
is `h`, with the upper part of the payload and without signalling. -/
structure Single.NarrowsTo (x : Single) (h : Half) : Prop where
  isNegative_eq : h.isNegative = x.isNegative
  nearest : x.isNaN = false → Half.Nearest x.units h.magnitude
  nan : x.isNaN = true → 0x7e00 ≤ h.magnitude ∧ h.payload = x.payload / 0x2000

/-- **Narrowing goes to the nearest number.** -/
theorem Single.narrowsTo_toHalf (x : Single) : x.NarrowsTo x.toHalf := by
  cases hnan : x.isNaN with
  | true =>
      have hpayload := x.payload_lt
      have hlt : 0x7e00 + x.payload / 0x2000 < 0x8000 := by omega
      have hhalf : x.toHalf =
          .ofPattern ((if x.isNegative then 0x8000 else 0) + (0x7e00 + x.payload / 0x2000)) := by
        simp only [toHalf, hnan, if_true]
      have hmagnitude := Half.magnitude_ofPattern x.isNegative hlt
      rw [hhalf]
      refine ⟨Half.isNegative_ofPattern _ hlt, fun h => ?_, fun _ => ⟨?_, ?_⟩⟩
      · cases hnan.symm.trans h
      · exact hmagnitude.ge.trans' (Nat.le_add_right _ _)
      · exact Half.payload_of_magnitude_eq hmagnitude (by omega)
  | false =>
      have hnearest := x.nearest_narrowedMagnitude
      have hlt : x.narrowedMagnitude < 0x8000 := hnearest.le_infinity.trans_lt (by decide)
      have hhalf : x.toHalf =
          .ofPattern ((if x.isNegative then 0x8000 else 0) + x.narrowedMagnitude) := by
        simp only [toHalf, hnan, Bool.false_eq_true, if_false]
      rw [hhalf]
      refine ⟨Half.isNegative_ofPattern _ hlt, fun _ => ?_, fun h => ?_⟩
      · exact (Half.magnitude_ofPattern _ hlt).symm ▸ hnearest
      · cases hnan.symm.trans h

/-! ## There and back -/

namespace Half

variable {h h' : Half} {x : Single}

/-- A value that is there is nearest to itself alone. -/
lemma Nearest.eq_of_units_eq {value m m' : Nat} (hm : Nearest value m) (hm' : m' ≤ 0x7c00)
    (hvalue : value = units m') : m = m' := by
  have hdist := hm.nearest m' hm'
  rw [hvalue, Nat.dist_self, Nat.le_zero] at hdist
  exact units_strictMono.injective (Nat.eq_of_dist_eq_zero hdist)

/-- A value beyond all numbers is nearest to infinity alone. -/
lemma Nearest.eq_infinity {value m : Nat} (hm : Nearest value m) (hvalue : units 0x7c00 ≤ value) :
    m = 0x7c00 := by
  have hdist := hm.nearest 0x7c00 le_rfl
  refine le_antisymm hm.le_infinity (units_strictMono.le_iff_le.1 ?_)
  have hle : units m ≤ units 0x7c00 := units_strictMono.monotone hm.le_infinity
  simp only [Nat.dist] at hdist
  omega

/-- **There and back.**  Whatever `h` is widened to and that is narrowed to is `h` again, a NaN
excepted. -/
theorem eq_of_widensTo_of_narrowsTo (hnan : h.isNaN = false) (hwide : h.WidensTo x)
    (hnan' : x.isNaN = false) (hnarrow : x.NarrowsTo h') : h' = h := by
  refine eq_of_magnitude_eq (hnarrow.isNegative_eq.trans hwide.isNegative_eq) ?_
  have hle := magnitude_le_of_isNaN hnan
  have hnearest := hnarrow.nearest hnan'
  rcases Nat.lt_or_eq_of_le hle with hfinite | hinfinite
  · -- there is a magnitude at distance zero, and no second one
    exact hnearest.eq_of_units_eq hle (hwide.units_eq hfinite)
  · have hexponent : 143 ≤ x.exponent := by
      rw [Single.exponent, hwide.infinite hinfinite]
      decide
    rw [hinfinite]
    exact hnearest.eq_infinity (Single.units_infinity_le hexponent)

lemma isNaN_toSingle (hnan : h.isNaN = false) : h.toSingle.isNaN = false := by
  rw [Single.isNaN, h.magnitude_toSingle]
  exact decide_eq_false (not_lt.2 (widenedMagnitude_le (magnitude_le_of_isNaN hnan)))

theorem toHalf_toSingle (hnan : h.isNaN = false) : h.toSingle.toHalf = h :=
  eq_of_widensTo_of_narrowsTo hnan h.widensTo_toSingle (isNaN_toSingle hnan)
    (Single.narrowsTo_toHalf _)

end Half

end NeuralBackend
