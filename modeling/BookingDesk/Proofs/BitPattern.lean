import BookingDesk.Number.Binary
import Mathlib.Algebra.Order.Field.Basic
import Mathlib.Algebra.Order.Field.Power
import Mathlib.Data.Rat.Cast.Order
import Mathlib.Order.WithBot
import Mathlib.Tactic.FieldSimp
import Mathlib.Tactic.Linarith
import Mathlib.Tactic.NormNum
import Mathlib.Tactic.Positivity
import Mathlib.Tactic.Ring

/-!
The exact numbers that bit patterns stand for. Counted in least values, the magnitudes of a
format lie on grids that grow coarser by a factor of two from one binade to the next, so a
larger magnitude always stands for a larger number.
-/

namespace BookingDesk.Number

abbrev Extended := WithBot (WithTop ℚ)

namespace Extended

def finite (q : ℚ) : Extended :=
  ((q : WithTop ℚ) : WithBot (WithTop ℚ))

theorem finite_inj {p q : ℚ} : finite p = finite q ↔ p = q := by
  simp [finite]

theorem finite_le {p q : ℚ} : finite p ≤ finite q ↔ p ≤ q := by
  simp [finite]

theorem finite_ne_top (q : ℚ) : finite q ≠ ⊤ := by
  simp [finite]

theorem finite_ne_bot (q : ℚ) : finite q ≠ ⊥ := by
  simp [finite]

end Extended

namespace Format

/-- There is a fraction, and there are exponents on both sides of zero. -/
structure Sound (f : Format) : Prop where
  fraction : 1 ≤ f.fractionBits
  exponent : 2 ≤ f.exponentBits

theorem single_sound : single.Sound := ⟨by decide, by decide⟩

def bias (f : Format) : ℤ := 2 ^ (f.exponentBits - 1) - 1

/-- The number that a bit pattern stands for: a sign, an exponent and a fraction, with a one
before the fraction unless the exponent field is zero. The largest exponent field is for
the infinities and for what is no number. -/
def number? (f : Format) (bits : ℕ) : Option Extended :=
  let fraction := bits % 2 ^ f.fractionBits
  let exponent := bits / 2 ^ f.fractionBits % 2 ^ f.exponentBits
  let sign := bits / 2 ^ (f.exponentBits + f.fractionBits) % 2
  if exponent = 2 ^ f.exponentBits - 1 then
    if fraction = 0 then some (if sign = 0 then ⊤ else ⊥) else none
  else
    let lead : ℚ := if exponent = 0 then 0 else 1
    let power : ℤ := max exponent 1 - f.bias
    let size : ℚ := (lead + fraction / 2 ^ f.fractionBits) * 2 ^ power
    some (.finite (if sign = 0 then size else -size))

def unitsAt (f : Format) (m : ℕ) : ℕ :=
  (⟨false, m⟩ : Binary f).units

/-- The number that a magnitude stands for; that of infinity would be the next one after
the largest. -/
def valueAt (f : Format) (m : ℕ) : ℚ :=
  f.unitsAt m / 2 ^ f.scale

variable (f : Format)

theorem unitsAt_fields (exponent fraction : ℕ) (small : fraction < 2 ^ f.fractionBits) :
    f.unitsAt (exponent * 2 ^ f.fractionBits + fraction) =
      if exponent = 0 then fraction else (fraction + 2 ^ f.fractionBits) * 2 ^ (exponent - 1) := by
  have positive : 0 < 2 ^ f.fractionBits := by positivity
  have quotient : (exponent * 2 ^ f.fractionBits + fraction) / 2 ^ f.fractionBits = exponent := by
    rw [mul_comm, Nat.mul_add_div positive, Nat.div_eq_of_lt small, Nat.add_zero]
  have rest : (exponent * 2 ^ f.fractionBits + fraction) % 2 ^ f.fractionBits = fraction := by
    rw [Nat.mul_add_mod_self_right, Nat.mod_eq_of_lt small]
  simp only [unitsAt, Binary.units, Binary.significand, Binary.unitExponent, Nat.pow_eq, quotient,
    rest]
  by_cases lowest : exponent = 0
  · simp [lowest, small]
  · have beyond : ¬exponent * 2 ^ f.fractionBits + fraction < 2 ^ f.fractionBits := by
      have := Nat.le_mul_of_pos_left (2 ^ f.fractionBits) (Nat.pos_of_ne_zero lowest)
      omega
    simp [lowest, beyond]

/-- In the binade of a shift the magnitudes follow a grid of that power of two, and so does
the first magnitude of the next binade. -/
theorem unitsAt_grid (shift k : ℕ) (place : shift = 0 ∨ 2 ^ f.fractionBits ≤ k)
    (most : k ≤ 2 * 2 ^ f.fractionBits) :
    f.unitsAt (shift * 2 ^ f.fractionBits + k) = k * 2 ^ shift := by
  have positive : 0 < 2 ^ f.fractionBits := by positivity
  rcases lt_trichotomy k (2 ^ f.fractionBits) with low | edge | high
  · obtain rfl : shift = 0 := place.resolve_right (by omega)
    rw [unitsAt_fields f 0 k low]
    simp
  · have fields := unitsAt_fields f (shift + 1) 0 positive
    rw [add_mul, one_mul, add_zero, ← edge] at fields
    simpa [← edge] using fields
  · rcases Nat.lt_or_eq_of_le most with inside | end_
    · have fields := unitsAt_fields f (shift + 1) (k - 2 ^ f.fractionBits) (by omega)
      have sum : (shift + 1) * 2 ^ f.fractionBits + (k - 2 ^ f.fractionBits) =
          shift * 2 ^ f.fractionBits + k := by
        rw [add_mul]
        omega
      rw [sum] at fields
      simpa [Nat.sub_add_cancel high.le] using fields
    · have fields := unitsAt_fields f (shift + 2) 0 positive
      have sum : (shift + 2) * 2 ^ f.fractionBits + 0 = shift * 2 ^ f.fractionBits + k := by
        rw [add_mul, end_]
        omega
      rw [sum] at fields
      rw [fields, end_]
      simp [pow_succ]
      ring

theorem exists_grid (m : ℕ) : ∃ shift k, m = shift * 2 ^ f.fractionBits + k ∧
    (shift = 0 ∨ 2 ^ f.fractionBits ≤ k) ∧ k < 2 * 2 ^ f.fractionBits := by
  have positive : 0 < 2 ^ f.fractionBits := by positivity
  have split := Nat.div_add_mod m (2 ^ f.fractionBits)
  have small := Nat.mod_lt m positive
  rw [mul_comm] at split
  cases exponent : m / 2 ^ f.fractionBits with
  | zero =>
    rw [exponent] at split
    exact ⟨0, m, by omega, .inl rfl, by omega⟩
  | succ shift =>
    rw [exponent, add_mul] at split
    exact ⟨shift, 2 ^ f.fractionBits + m % 2 ^ f.fractionBits, by omega, .inr (by omega), by omega⟩

theorem unitsAt_strictMono : StrictMono f.unitsAt := by
  apply strictMono_nat_of_lt_succ
  intro m
  obtain ⟨shift, k, rfl, place, below⟩ := f.exists_grid m
  have positive : 0 < 2 ^ shift := by positivity
  rw [add_assoc, f.unitsAt_grid shift k place below.le,
    f.unitsAt_grid shift (k + 1) (by omega) below, add_mul]
  omega

theorem valueAt_strictMono : StrictMono f.valueAt := by
  intro m n less
  have counts : (f.unitsAt m : ℚ) < f.unitsAt n := by exact_mod_cast f.unitsAt_strictMono less
  exact div_lt_div_of_pos_right counts (by positivity)

@[simp]
theorem valueAt_zero : f.valueAt 0 = 0 := by
  have none := f.unitsAt_grid 0 0 (.inl rfl) (by omega)
  rw [zero_mul, zero_mul] at none
  rw [valueAt, none, Nat.cast_zero, zero_div]

theorem valueAt_nonneg (m : ℕ) : 0 ≤ f.valueAt m := by
  unfold valueAt
  positivity

variable {f}

theorem two_le_pow (sound : f.Sound) : 2 ≤ 2 ^ (f.exponentBits - 1) := by
  have least := sound.exponent
  calc 2 = 2 ^ 1 := rfl
    _ ≤ 2 ^ (f.exponentBits - 1) := Nat.pow_le_pow_right (by decide) (by omega)

theorem scale_cast (sound : f.Sound) : (f.scale : ℤ) = f.bias - 1 + f.fractionBits := by
  have two := two_le_pow sound
  simp only [scale, bias, Nat.pow_eq]
  push_cast [Nat.cast_sub two]
  ring

theorem valueAt_fields (sound : f.Sound) (exponent fraction : ℕ)
    (small : fraction < 2 ^ f.fractionBits) :
    ((if exponent = 0 then 0 else 1) + fraction / 2 ^ f.fractionBits : ℚ) *
      2 ^ (max exponent 1 - f.bias : ℤ) =
      f.valueAt (exponent * 2 ^ f.fractionBits + fraction) := by
  have scaled : (2 : ℚ) ^ f.scale = 2 ^ (f.bias - 1) * 2 ^ f.fractionBits := by
    rw [← zpow_natCast, scale_cast sound, zpow_add₀ two_ne_zero, zpow_natCast]
  rw [valueAt, unitsAt_fields f exponent fraction small, scaled]
  cases exponent with
  | zero =>
    have power : (max 0 1 : ℕ) - f.bias = -(f.bias - 1) := by
      rw [max_eq_right zero_le_one, Nat.cast_one]
      ring
    rw [power, zpow_neg, if_pos rfl, if_pos rfl]
    field_simp
    ring
  | succ e =>
    have power : (max (e + 1) 1 : ℕ) - f.bias = e - (f.bias - 1) := by
      rw [max_eq_left (by omega), Nat.cast_succ]
      ring
    rw [power, zpow_sub₀ two_ne_zero, zpow_natCast, if_neg e.succ_ne_zero, if_neg e.succ_ne_zero]
    push_cast
    field_simp
    ring

/-- The number of a pattern by its sign bit and the magnitude below it. -/
theorem number?_eq (sound : f.Sound) (bits : ℕ) :
    f.number? bits =
      if bits % f.signBit < f.infinity then
        some (.finite (if bits / f.signBit % 2 = 0 then f.valueAt (bits % f.signBit)
          else -f.valueAt (bits % f.signBit)))
      else if bits % f.signBit = f.infinity then some (if bits / f.signBit % 2 = 0 then ⊤ else ⊥)
      else none := by
  have positive : 0 < 2 ^ f.fractionBits := by positivity
  have place : f.signBit = 2 ^ f.fractionBits * 2 ^ f.exponentBits := by
    rw [signBit, Nat.pow_eq, pow_add, mul_comm]
  have fraction : bits % 2 ^ f.fractionBits = bits % f.signBit % 2 ^ f.fractionBits := by
    rw [place, Nat.mod_mul_right_mod]
  have exponent : bits / 2 ^ f.fractionBits % 2 ^ f.exponentBits =
      bits % f.signBit / 2 ^ f.fractionBits := by
    rw [place, Nat.mod_mul_right_div_self]
  have bound : bits % f.signBit / 2 ^ f.fractionBits < 2 ^ f.exponentBits :=
    exponent ▸ Nat.mod_lt _ (by positivity)
  have sign : 2 ^ (f.exponentBits + f.fractionBits) = f.signBit := rfl
  have top : f.infinity = (2 ^ f.exponentBits - 1) * 2 ^ f.fractionBits := rfl
  simp only [number?, fraction, exponent, sign]
  generalize bits % f.signBit = m at *
  have split := Nat.div_add_mod m (2 ^ f.fractionBits)
  rw [mul_comm] at split
  have small := Nat.mod_lt m positive
  by_cases finite : m < f.infinity
  · have less : m / 2 ^ f.fractionBits < 2 ^ f.exponentBits - 1 := by
      rw [Nat.div_lt_iff_lt_mul positive, ← top]
      exact finite
    have value := valueAt_fields sound (m / 2 ^ f.fractionBits) _ small
    rw [split] at value
    rw [if_neg less.ne, if_pos finite, value]
  · have most : m / 2 ^ f.fractionBits = 2 ^ f.exponentBits - 1 := by
      have least : 2 ^ f.exponentBits - 1 ≤ m / 2 ^ f.fractionBits := by
        rw [Nat.le_div_iff_mul_le positive, ← top]
        omega
      omega
    rw [most, ← top] at split
    have whole : m % 2 ^ f.fractionBits = 0 ↔ m = f.infinity := by omega
    rw [if_pos most, if_neg finite]
    simp only [whole]

example : single.number? 0xC3A08000 = some (.finite (-321)) := by
  decide +kernel

theorem exists_magnitude (sound : f.Sound) {bits : ℕ} {b : ℚ}
    (read : f.number? bits = some (.finite b)) :
    ∃ k < f.infinity, b = f.valueAt k ∨ b = -f.valueAt k := by
  rw [number?_eq sound] at read
  split_ifs at read with finite positive infinite
  · exact ⟨_, finite, .inl (Extended.finite_inj.mp (Option.some.inj read)).symm⟩
  · exact ⟨_, finite, .inr (Extended.finite_inj.mp (Option.some.inj read)).symm⟩
  · exact absurd (Option.some.inj read).symm (Extended.finite_ne_top b)
  · exact absurd (Option.some.inj read).symm (Extended.finite_ne_bot b)

theorem infinity_lt_signBit : f.infinity < f.signBit := by
  have fraction : 0 < 2 ^ f.fractionBits := by positivity
  have exponent : 0 < 2 ^ f.exponentBits := by positivity
  calc f.infinity = (2 ^ f.exponentBits - 1) * 2 ^ f.fractionBits := rfl
    _ < 2 ^ f.exponentBits * 2 ^ f.fractionBits := Nat.mul_lt_mul_of_pos_right (by omega) fraction
    _ = f.signBit := (pow_add 2 f.exponentBits f.fractionBits).symm

end Format

namespace Binary

variable {f : Format}

theorem bits_mod_signBit (x : Binary f) (bounded : x.magnitude ≤ f.infinity) :
    x.bits % f.signBit = x.magnitude := by
  have fits := Nat.lt_of_le_of_lt bounded Format.infinity_lt_signBit
  cases sign : x.negative <;> simp [bits, sign, Nat.mod_eq_of_lt fits]

theorem bits_div_signBit (x : Binary f) (bounded : x.magnitude ≤ f.infinity) :
    x.bits / f.signBit % 2 = if x.negative then 1 else 0 := by
  have fits := Nat.lt_of_le_of_lt bounded Format.infinity_lt_signBit
  have positive : 0 < f.signBit := Nat.zero_lt_of_lt fits
  cases sign : x.negative <;>
    simp [bits, sign, Nat.div_eq_of_lt fits, Nat.add_div_left _ positive]

theorem number?_of_finite (sound : f.Sound) (x : Binary f) (finite : x.magnitude < f.infinity) :
    f.number? x.bits =
      some (.finite (if x.negative then -f.valueAt x.magnitude else f.valueAt x.magnitude)) := by
  rw [Format.number?_eq sound, x.bits_mod_signBit finite.le, x.bits_div_signBit finite.le,
    if_pos finite]
  cases x.negative <;> rfl

theorem number?_of_infinite (sound : f.Sound) (x : Binary f) (infinite : x.magnitude = f.infinity) :
    f.number? x.bits = some (if x.negative then ⊥ else ⊤) := by
  rw [Format.number?_eq sound, x.bits_mod_signBit infinite.le, x.bits_div_signBit infinite.le,
    if_neg infinite.not_lt, if_pos infinite]
  cases x.negative <;> rfl

end Binary

end BookingDesk.Number
