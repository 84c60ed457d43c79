import BookingDesk.Number.Literal
import BookingDesk.Proofs.BitPattern

/-!
Rounding gives the nearest number of a format, and of two that are equally near the one
whose last bit is zero. The number to be rounded lies between two neighbours, of which
rounding takes one, and no other number is as near as they are. From halfway between the
largest number and the one that would follow it on, rounding gives infinity.
-/

namespace BookingDesk.Number

namespace Format

/-- The pattern is that of the number nearest to `v`; if another is as near, its last bit is
zero. -/
def Nearest (f : Format) (v : ℚ) (bits : ℕ) : Prop :=
  ∃ a, f.number? bits = some (.finite a) ∧
    ∀ other b, f.number? other = some (.finite b) →
      |v - a| ≤ |v - b| ∧ (|v - a| = |v - b| → b = a ∨ bits % 2 = 0)

def distance (f : Format) (v : ℚ) (m : ℕ) : ℚ :=
  |v - f.valueAt m|

structure NearestAt (f : Format) (v : ℚ) (m : ℕ) : Prop where
  near : ∀ k, f.distance v m ≤ f.distance v k
  even : ∀ k, f.distance v m = f.distance v k → k = m ∨ m % 2 = 0

def Prefers (f : Format) (v : ℚ) (m other : ℕ) : Prop :=
  f.distance v m < f.distance v other ∨ (f.distance v m = f.distance v other ∧ m % 2 = 0)

/-- Halfway from the largest number to the one that would follow it. -/
def overflow (f : Format) : ℚ :=
  (f.valueAt (f.infinity - 1) + f.valueAt f.infinity) / 2

structure RoundsTo (f : Format) (v : ℚ) (m : ℕ) : Prop where
  finite : v < f.overflow → m < f.infinity ∧ f.NearestAt v m
  infinite : f.overflow ≤ v → m = f.infinity

variable {f : Format} {v : ℚ}

theorem distance_of_le {m : ℕ} (lower : f.valueAt m ≤ v) : f.distance v m = v - f.valueAt m :=
  abs_of_nonneg (by linarith)

theorem distance_of_ge {m : ℕ} (upper : v ≤ f.valueAt m) : f.distance v m = f.valueAt m - v := by
  rw [distance, abs_of_nonpos (by linarith), neg_sub]

structure Between (f : Format) (v : ℚ) (below : ℕ) : Prop where
  lower : f.valueAt below ≤ v
  upper : v < f.valueAt (below + 1)

/-- Any other number is farther away than the neighbour on its side. -/
theorem Between.farther {below : ℕ} (between : f.Between v below) (k : ℕ) :
    (k = below ∨ f.distance v below < f.distance v k) ∨
      (k = below + 1 ∨ f.distance v (below + 1) < f.distance v k) := by
  obtain ⟨lower, upper⟩ := between
  rw [distance_of_le lower, distance_of_ge upper.le]
  rcases Nat.lt_or_ge below k with above | under
  · right
    rcases Nat.eq_or_lt_of_le (Nat.succ_le_of_lt above) with same | more
    · exact .inl same.symm
    · have larger := f.valueAt_strictMono more
      rw [Nat.succ_eq_add_one] at larger
      rw [distance_of_ge (by linarith)]
      exact .inr (by linarith)
  · left
    rcases Nat.eq_or_lt_of_le under with same | less
    · exact .inl same
    · have smaller := f.valueAt_strictMono less
      rw [distance_of_le (by linarith)]
      exact .inr (by linarith)

/-- Of two magnitudes that leave all others behind, the preferred one is the nearest. -/
theorem nearestAt_of_prefers (m other : ℕ)
    (farther : ∀ k, (k = m ∨ f.distance v m < f.distance v k) ∨
      (k = other ∨ f.distance v other < f.distance v k))
    (preferred : f.Prefers v m other) : f.NearestAt v m := by
  have other_le : f.distance v m ≤ f.distance v other := preferred.elim le_of_lt (·.1.le)
  constructor
  · intro k
    rcases farther k with (rfl | own) | (rfl | others)
    · exact le_rfl
    · exact own.le
    · exact other_le
    · exact other_le.trans others.le
  · intro k same
    rcases farther k with (rfl | own) | (rfl | others)
    · exact .inl rfl
    · exact absurd same own.ne
    · rcases preferred with less | ⟨_, even⟩
      · exact absurd same less.ne
      · exact .inr even
    · exact absurd same (other_le.trans_lt others).ne

/-- The magnitude is one of two neighbours, the preferred one. -/
def Takes (f : Format) (v : ℚ) (below m : ℕ) : Prop :=
  (m = below ∧ f.Prefers v below (below + 1)) ∨ (m = below + 1 ∧ f.Prefers v (below + 1) below)

theorem Between.nearestAt {below m : ℕ} (between : f.Between v below)
    (taken : f.Takes v below m) : f.NearestAt v m := by
  rcases taken with ⟨rfl, preferred⟩ | ⟨rfl, preferred⟩
  · exact nearestAt_of_prefers _ _ between.farther preferred
  · exact nearestAt_of_prefers _ _ (fun k => (between.farther k).symm) preferred

theorem two_le_infinity (sound : f.Sound) : 2 ≤ f.infinity := by
  have exponent : 2 ^ 2 ≤ 2 ^ f.exponentBits := Nat.pow_le_pow_right (by decide) sound.exponent
  have fraction : 0 < 2 ^ f.fractionBits := by positivity
  have product := Nat.mul_le_mul (Nat.sub_le_sub_right exponent 1) fraction
  change 2 ≤ (2 ^ f.exponentBits - 1) * 2 ^ f.fractionBits
  omega

theorem two_dvd_fraction (sound : f.Sound) : 2 ∣ 2 ^ f.fractionBits :=
  dvd_pow_self 2 (by have := sound.fraction; omega)

theorem infinity_even (sound : f.Sound) : f.infinity % 2 = 0 :=
  Nat.mod_eq_zero_of_dvd ((two_dvd_fraction sound).mul_left _)

/-- Rounding without an end of the range overflows just from halfway on. -/
theorem Between.overflow_le_iff (sound : f.Sound) {below m : ℕ} (between : f.Between v below)
    (taken : f.Takes v below m) : f.overflow ≤ v ↔ f.infinity ≤ m := by
  obtain ⟨lower, upper⟩ := between
  have two := two_le_infinity sound
  have even := infinity_even sound
  have last := f.valueAt_strictMono (show f.infinity - 1 < f.infinity by omega)
  have half : f.overflow = (f.valueAt (f.infinity - 1) + f.valueAt f.infinity) / 2 := rfl
  have mono := f.valueAt_strictMono.monotone
  have either : m = below ∨ m = below + 1 := taken.imp And.left And.left
  rcases lt_trichotomy (below + 1) f.infinity with inside | edge | outside
  · have under : f.valueAt (below + 1) ≤ f.valueAt (f.infinity - 1) := mono (by omega)
    constructor
    · intro exceeds
      linarith
    · intro exceeds
      omega
  · -- the two neighbours are the largest number and the one after it
    have same : f.infinity - 1 = below := by omega
    rw [same] at half last
    rw [edge] at upper
    simp only [Takes, Prefers, edge, distance_of_le lower, distance_of_ge upper.le] at taken
    constructor
    · intro exceeds
      rcases taken with ⟨rfl, less | ⟨_, odd⟩⟩ | ⟨rfl, _⟩
      · linarith
      · omega
      · exact le_rfl
    · intro exceeds
      rcases taken with ⟨rfl, _⟩ | ⟨_, less | ⟨tie, _⟩⟩
      · omega
      · linarith
      · linarith
  · have beyond : f.valueAt f.infinity ≤ f.valueAt below := mono (by omega)
    constructor
    · intro _
      omega
    · intro _
      linarith

theorem Between.roundsTo (sound : f.Sound) {below m : ℕ} (between : f.Between v below)
    (taken : f.Takes v below m) : f.RoundsTo v (min m f.infinity) := by
  have reach := between.overflow_le_iff sound taken
  constructor
  · intro inside
    have less : m < f.infinity := by
      rw [← not_le, ← reach]
      exact inside.not_ge
    rw [min_eq_left less.le]
    exact ⟨less, between.nearestAt taken⟩
  · intro exceeds
    exact min_eq_right (reach.mp exceeds)

end Format

theorem roundHalfEven_cases (n d : ℕ) :
    (roundHalfEven n d = n / d ∧ (2 * (n % d) < d ∨ (2 * (n % d) = d ∧ n / d % 2 = 0))) ∨
    (roundHalfEven n d = n / d + 1 ∧
      (d < 2 * (n % d) ∨ (2 * (n % d) = d ∧ (n / d + 1) % 2 = 0))) := by
  unfold roundHalfEven
  dsimp only
  split_ifs with down
  · exact .inl ⟨rfl, down⟩
  · exact .inr ⟨rfl, by omega⟩

/-- Shifted to the width of a fraction, a number has at most one digit more than it and,
unless it was not shifted at all, just one. -/
theorem shifted_bounds (q width : ℕ) :
    (q.log2 - width = 0 ∨ 2 ^ width ≤ q / 2 ^ (q.log2 - width)) ∧
      q / 2 ^ (q.log2 - width) < 2 * 2 ^ width := by
  constructor
  · rcases Nat.eq_zero_or_pos (q.log2 - width) with none | some
    · exact .inl none
    · right
      have nonzero : q ≠ 0 := by
        rintro rfl
        simp at some
      have sum : width + (q.log2 - width) = q.log2 := by omega
      rw [Nat.le_div_iff_mul_le (by positivity), ← pow_add, sum]
      exact Nat.log2_self_le nonzero
  · rw [Nat.div_lt_iff_lt_mul (by positivity), ← pow_succ', ← pow_add]
    calc q < 2 ^ (q.log2 + 1) := Nat.lt_log2_self
      _ ≤ 2 ^ (width + 1 + (q.log2 - width)) := Nat.pow_le_pow_right (by decide) (by omega)

namespace Format

variable {f : Format}

theorem neighbours (n d shift : ℕ) (positive : 0 < d)
    (place : shift = 0 ∨ 2 ^ f.fractionBits ≤ n * 2 ^ f.scale / (d * 2 ^ shift))
    (inside : n * 2 ^ f.scale / (d * 2 ^ shift) < 2 * 2 ^ f.fractionBits) :
    let below := shift * 2 ^ f.fractionBits + n * 2 ^ f.scale / (d * 2 ^ shift)
    let step := d * 2 ^ shift
    let rest := n * 2 ^ f.scale % step
    (n / d : ℚ) - f.valueAt below = rest / (d * 2 ^ f.scale) ∧
      f.valueAt (below + 1) - n / d = (step - rest) / (d * 2 ^ f.scale) := by
  intro below step rest
  have divided : (n * 2 ^ f.scale : ℚ) = step * (n * 2 ^ f.scale / step : ℕ) + rest := by
    exact_mod_cast (Nat.div_add_mod (n * 2 ^ f.scale) step).symm
  have lower := f.unitsAt_grid shift _ place inside.le
  have upper := f.unitsAt_grid shift (n * 2 ^ f.scale / (d * 2 ^ shift) + 1) (by omega) inside
  have nonzero : (d : ℚ) ≠ 0 := by positivity
  have value : (n / d : ℚ) = n * 2 ^ f.scale / (d * 2 ^ f.scale) := by field_simp
  rw [value, divided]
  constructor
  · simp only [valueAt, below, step, lower]
    push_cast
    field_simp
    ring
  · simp only [valueAt, below, step, add_assoc, upper]
    push_cast
    field_simp
    ring

theorem roundsTo_nearest (sound : f.Sound) (n d : ℕ) (positive : 0 < d) :
    f.RoundsTo (n / d : ℚ) (f.nearest n d) := by
  let shift := Nat.log2 (n * 2 ^ f.scale / d) - f.fractionBits
  let step := d * 2 ^ shift
  let below := shift * 2 ^ f.fractionBits + n * 2 ^ f.scale / step
  have rounded : f.nearest n d = min (shift * 2 ^ f.fractionBits +
      roundHalfEven (n * 2 ^ f.scale) step) f.infinity := rfl
  obtain ⟨place, inside⟩ := shifted_bounds (n * 2 ^ f.scale / d) f.fractionBits
  rw [Nat.div_div_eq_div_mul] at place inside
  obtain ⟨lower, upper⟩ := neighbours n d shift positive place inside
  have unit : (0 : ℚ) < d * 2 ^ f.scale := by positivity
  have small : ((n * 2 ^ f.scale % step : ℕ) : ℚ) < step := by
    exact_mod_cast Nat.mod_lt _ (Nat.mul_pos positive (Nat.two_pow_pos shift))
  have between : f.Between (n / d : ℚ) below := by
    constructor
    · have toLower : (0 : ℚ) ≤ (n * 2 ^ f.scale % step : ℕ) / (d * 2 ^ f.scale) := by positivity
      linarith
    · have toUpper := div_pos (sub_pos.mpr small) unit
      linarith
  have parity : below % 2 = n * 2 ^ f.scale / step % 2 := by
    have whole := (two_dvd_fraction sound).mul_left shift
    omega
  rw [rounded]
  apply between.roundsTo sound
  simp only [Takes, Prefers, distance_of_le between.lower, distance_of_ge between.upper.le]
  rw [lower, upper]
  rcases roundHalfEven_cases (n * 2 ^ f.scale) step with
    ⟨down, less | ⟨tie, even⟩⟩ | ⟨up, more | ⟨tie, even⟩⟩
  · have half : 2 * ((n * 2 ^ f.scale % step : ℕ) : ℚ) < step := by exact_mod_cast less
    exact .inl ⟨by rw [down], .inl (div_lt_div_of_pos_right (by linarith) unit)⟩
  · have half : 2 * ((n * 2 ^ f.scale % step : ℕ) : ℚ) = step := by exact_mod_cast tie
    exact .inl ⟨by rw [down], .inr ⟨by rw [← half]; ring, by omega⟩⟩
  · have half : (step : ℚ) < 2 * (n * 2 ^ f.scale % step : ℕ) := by exact_mod_cast more
    exact .inr ⟨by rw [up]; rfl, .inl (div_lt_div_of_pos_right (by linarith) unit)⟩
  · have half : 2 * ((n * 2 ^ f.scale % step : ℕ) : ℚ) = step := by exact_mod_cast tie
    exact .inr ⟨by rw [up]; rfl, .inr ⟨by rw [← half]; ring, by omega⟩⟩

theorem valueAt_infinity (sound : f.Sound) :
    f.valueAt f.infinity = 2 ^ 2 ^ (f.exponentBits - 1) := by
  have two := two_le_pow sound
  have doubled : 2 ^ f.exponentBits = 2 * 2 ^ (f.exponentBits - 1) := by
    rw [← pow_succ', Nat.sub_add_cancel (by have := sound.exponent; omega)]
  have fields := f.unitsAt_fields (2 ^ f.exponentBits - 1) 0 (by positivity)
  rw [if_neg (by omega), zero_add, add_zero, ← pow_add] at fields
  have exponents : f.fractionBits + (2 ^ f.exponentBits - 1 - 1) =
      2 ^ (f.exponentBits - 1) + f.scale := by
    have scale : f.scale = 2 ^ (f.exponentBits - 1) - 2 + f.fractionBits := rfl
    omega
  have units : f.unitsAt f.infinity = 2 ^ (2 ^ (f.exponentBits - 1) + f.scale) := by
    rw [← exponents]
    exact fields
  rw [valueAt, units]
  push_cast
  rw [pow_add, mul_div_assoc, div_self (by positivity), mul_one]

theorem valueAt_one : f.valueAt 1 = 1 / 2 ^ f.scale := by
  have one := f.unitsAt_grid 0 1 (.inl rfl) (by have := Nat.two_pow_pos f.fractionBits; omega)
  rw [zero_mul, zero_add, pow_zero, mul_one] at one
  rw [valueAt, one, Nat.cast_one]

theorem overflow_le_valueAt_infinity (sound : f.Sound) : f.overflow ≤ f.valueAt f.infinity := by
  have two := two_le_infinity sound
  have less := f.valueAt_strictMono (show f.infinity - 1 < f.infinity by omega)
  rw [overflow]
  linarith

theorem roundsTo_zero (sound : f.Sound) {v : ℚ} (nonneg : 0 ≤ v) (tiny : 2 * v < f.valueAt 1) :
    f.RoundsTo v 0 := by
  have between : f.Between v 0 := ⟨by rw [valueAt_zero]; exact nonneg, by rw [zero_add]; linarith⟩
  have taken : f.Takes v 0 0 := by
    refine .inl ⟨rfl, .inl ?_⟩
    rw [distance_of_le between.lower, distance_of_ge between.upper.le, valueAt_zero, zero_add]
    linarith
  have rounded := between.roundsTo sound taken
  rwa [Nat.zero_min] at rounded

theorem lt_pow_digitCount (n : ℕ) : n < 10 ^ digitCount n :=
  (Nat.length_toDigits_le_iff (by decide) Nat.length_toDigits_pos).mp le_rfl

theorem pow_digitCount_le {n : ℕ} (positive : 0 < n) : 10 ^ (digitCount n - 1) ≤ n := by
  rcases Nat.eq_zero_or_pos (digitCount n - 1) with single | several
  · rw [single, pow_zero]
    exact positive
  · rw [← not_lt, ← Nat.length_toDigits_le_iff (by decide) several]
    change ¬digitCount n ≤ digitCount n - 1
    omega

theorem decimal_bounds (significand : ℕ) (exponent : ℤ) (positive : 0 < significand) :
    (10 : ℚ) ^ (digitCount significand + exponent - 1) ≤ significand * 10 ^ exponent ∧
      (significand * 10 ^ exponent : ℚ) < 10 ^ (digitCount significand + exponent) := by
  have power : (0 : ℚ) < 10 ^ exponent := by positivity
  have some : 0 < digitCount significand := Nat.length_toDigits_pos
  constructor
  · have least : ((10 ^ (digitCount significand - 1) : ℕ) : ℚ) ≤ significand := by
      exact_mod_cast pow_digitCount_le positive
    have split : (digitCount significand + exponent - 1 : ℤ) =
        ((digitCount significand - 1 : ℕ) : ℤ) + exponent := by omega
    rw [split, zpow_add₀ (by norm_num), zpow_natCast]
    push_cast at least
    exact mul_le_mul_of_nonneg_right least power.le
  · have most : (significand : ℚ) < ((10 ^ digitCount significand : ℕ) : ℚ) := by
      exact_mod_cast lt_pow_digitCount significand
    rw [zpow_add₀ (by norm_num), zpow_natCast]
    push_cast at most
    exact mul_lt_mul_of_pos_right most power

theorem decimal_eq_quotient (significand : ℕ) (exponent : ℤ) :
    (significand * 10 ^ exponent : ℚ) =
      ((significand * 10 ^ exponent.toNat : ℕ) : ℚ) / ((10 ^ (-exponent).toNat : ℕ) : ℚ) := by
  push_cast
  rw [mul_div_assoc, ← zpow_natCast, ← zpow_natCast, ← zpow_sub₀ (by norm_num)]
  congr 2
  omega

theorem decimal_tiny (significand : ℕ) (exponent : ℤ) (positive : 0 < significand)
    (few : (digitCount significand + exponent : ℤ) < -(f.scale : ℤ)) :
    2 * (significand * 10 ^ exponent : ℚ) < f.valueAt 1 := by
  have upper := (decimal_bounds significand exponent positive).2
  have tiny : (10 : ℚ) ^ (digitCount significand + exponent : ℤ) ≤ 1 / 10 ^ (f.scale + 1) := by
    calc (10 : ℚ) ^ (digitCount significand + exponent : ℤ)
        ≤ 10 ^ (-((f.scale + 1 : ℕ) : ℤ)) := zpow_le_zpow_right₀ (by norm_num) (by omega)
      _ = 1 / 10 ^ (f.scale + 1) := by rw [zpow_neg, zpow_natCast, one_div]
  have half : 2 * (1 / 10 ^ (f.scale + 1) : ℚ) ≤ f.valueAt 1 := by
    rw [valueAt_one, mul_one_div, div_le_div_iff₀ (by positivity) (by positivity), one_mul,
      ← pow_succ']
    exact pow_le_pow_left₀ (by norm_num) (by norm_num) _
  linarith

theorem decimal_huge (sound : f.Sound) (significand : ℕ) (exponent : ℤ) (positive : 0 < significand)
    (many : ((2 ^ (f.exponentBits - 1) : ℕ) : ℤ) < digitCount significand + exponent) :
    f.overflow ≤ significand * 10 ^ exponent := by
  calc f.overflow ≤ f.valueAt f.infinity := overflow_le_valueAt_infinity sound
    _ = 2 ^ 2 ^ (f.exponentBits - 1) := valueAt_infinity sound
    _ ≤ 10 ^ 2 ^ (f.exponentBits - 1) := pow_le_pow_left₀ (by norm_num) (by norm_num) _
    _ ≤ 10 ^ (digitCount significand + exponent - 1 : ℤ) := by
      rw [← zpow_natCast]
      exact zpow_le_zpow_right₀ (by norm_num) (by omega)
    _ ≤ significand * 10 ^ exponent := (decimal_bounds significand exponent positive).1

/-- The ends of the range are told by the number of digits, and they too are rounded as
they should be. -/
theorem roundsTo_nearestDecimal (sound : f.Sound) (significand : ℕ) (exponent : ℤ) :
    f.RoundsTo (significand * 10 ^ exponent) (f.nearestDecimal significand exponent) := by
  unfold nearestDecimal
  dsimp only
  split_ifs with low high
  · rcases Nat.eq_zero_or_pos significand with zero | positive
    · have least : 0 < f.valueAt 1 := by
        rw [valueAt_one]
        positivity
      rw [zero, Nat.cast_zero, zero_mul]
      exact roundsTo_zero sound le_rfl (by rwa [mul_zero])
    · have few := low.resolve_left positive.ne'
      exact roundsTo_zero sound (by positivity) (decimal_tiny significand exponent positive few)
  · have positive : 0 < significand := Nat.pos_of_ne_zero fun zero => low (.inl zero)
    have exceeds := decimal_huge sound significand exponent positive high
    exact ⟨fun inside => absurd inside exceeds.not_gt, fun _ => rfl⟩
  · rw [decimal_eq_quotient]
    exact roundsTo_nearest sound _ _ (Nat.pow_pos (by decide))

variable {v w : ℚ} {m k : ℕ}

theorem RoundsTo.le_infinity (rounded : f.RoundsTo v m) : m ≤ f.infinity := by
  rcases lt_or_ge v f.overflow with inside | exceeds
  · exact (rounded.finite inside).1.le
  · exact (rounded.infinite exceeds).le

theorem distance_le_iff (less : k < m) :
    (f.distance v m ≤ f.distance v k ↔ f.valueAt k + f.valueAt m ≤ 2 * v) ∧
      (f.distance v k ≤ f.distance v m ↔ 2 * v ≤ f.valueAt k + f.valueAt m) := by
  have values := f.valueAt_strictMono less
  unfold distance
  rcases abs_cases (v - f.valueAt m) with ⟨upper, _⟩ | ⟨upper, _⟩ <;>
    rcases abs_cases (v - f.valueAt k) with ⟨lower, _⟩ | ⟨lower, _⟩ <;>
    rw [upper, lower] <;> constructor <;> constructor <;> intro <;> linarith

/-- A larger number is never rounded to a smaller one. At a midpoint both results would have
to end in a zero bit, but then there is a third number between them that is nearer. -/
theorem NearestAt.mono (first : f.NearestAt v m) (second : f.NearestAt w k) (le : v ≤ w) :
    m ≤ k := by
  by_contra! less
  have above := (distance_le_iff less).1.mp (first.near k)
  have under := (distance_le_iff less).2.mp (second.near m)
  have middle : 2 * v = f.valueAt k + f.valueAt m := by linarith
  obtain rfl : v = w := by linarith
  have tie : f.distance v m = f.distance v k :=
    le_antisymm (first.near k) (second.near m)
  have evens : m % 2 = 0 ∧ k % 2 = 0 :=
    ⟨(first.even k tie).resolve_left less.ne, (second.even m tie.symm).resolve_left less.ne'⟩
  have third : k + 1 < m := by omega
  have nearer := (distance_le_iff third).1.mp (first.near (k + 1))
  have larger := f.valueAt_strictMono (Nat.lt_succ_self k)
  rw [Nat.succ_eq_add_one] at larger
  linarith

theorem RoundsTo.mono (first : f.RoundsTo v m) (second : f.RoundsTo w k) (le : v ≤ w) :
    m ≤ k := by
  rcases lt_or_ge w f.overflow with inside | exceeds
  · exact (first.finite (le.trans_lt inside)).2.mono (second.finite inside).2 le
  · rw [second.infinite exceeds]
    exact first.le_infinity

theorem RoundsTo.max (first : f.RoundsTo v m) (second : f.RoundsTo w k) :
    f.RoundsTo (max v w) (max m k) := by
  rcases le_total v w with le | ge
  · rw [max_eq_right le, max_eq_right (first.mono second le)]
    exact second
  · rw [max_eq_left ge, max_eq_left (second.mono first ge)]
    exact first

/-- No negative number is as near to a positive one as its opposite. -/
theorem nearest_of_nearestAt (sound : f.Sound) (nonneg : 0 ≤ v) (finite : m < f.infinity)
    (nearest : f.NearestAt v m) : f.Nearest v (⟨false, m⟩ : Binary f).bits := by
  have number := Binary.number?_of_finite sound ⟨false, m⟩ finite
  have parity : (⟨false, m⟩ : Binary f).bits % 2 = m % 2 := by simp [Binary.bits]
  refine ⟨f.valueAt m, number, ?_⟩
  intro other b read
  rw [parity]
  obtain ⟨k, _, rfl | rfl⟩ := exists_magnitude sound read
  · refine ⟨nearest.near k, fun tie => ?_⟩
    exact (nearest.even k tie).imp_left (congrArg f.valueAt)
  · have size := f.valueAt_nonneg k
    have zero : f.distance v 0 = v := by
      rw [distance_of_le (by rw [valueAt_zero]; exact nonneg), valueAt_zero, sub_zero]
    have least := nearest.near 0
    have opposite : |v - -f.valueAt k| = v + f.valueAt k := by
      rw [abs_of_nonneg (by linarith), sub_neg_eq_add]
    change f.distance v m ≤ _ ∧ (f.distance v m = _ → _)
    rw [opposite]
    refine ⟨by linarith, fun tie => ?_⟩
    have none : f.valueAt k = 0 := by linarith
    rw [none, neg_zero, ← f.valueAt_zero]
    exact (nearest.even 0 (by linarith)).imp_left (congrArg f.valueAt)

end Format

end BookingDesk.Number
