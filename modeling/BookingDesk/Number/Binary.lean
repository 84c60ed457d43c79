/-!
Binary floating-point numbers, by sign and magnitude. The magnitude of a value is
its bit pattern below the sign bit, so that larger values have larger magnitudes;
the magnitudes above that of infinity are not numbers.
-/

namespace BookingDesk.Number

/-- The widths of the two fields below the sign bit. -/
structure Format where
  fractionBits : Nat
  exponentBits : Nat
deriving DecidableEq

namespace Format

def single : Format := ⟨23, 8⟩

def double : Format := ⟨52, 11⟩

/-- The least positive value is `2 ^ -scale`. -/
def scale (f : Format) : Nat :=
  Nat.pow 2 (f.exponentBits - 1) - 2 + f.fractionBits

def infinity (f : Format) : Nat :=
  (Nat.pow 2 f.exponentBits - 1) * Nat.pow 2 f.fractionBits

def signBit (f : Format) : Nat :=
  Nat.pow 2 (f.exponentBits + f.fractionBits)

end Format

def roundHalfEven (n d : Nat) : Nat :=
  let q := n / d
  let r := n % d
  if 2 * r < d ∨ (2 * r = d ∧ q % 2 = 0) then q else q + 1

/-- The magnitude of the value nearest to `n / d`, ties to the even one. Counted
in least values the quotient lies between two neighbours that are `2 ^ shift`
apart; a carry into the next binade carries into the exponent field. -/
def Format.nearest (f : Format) (n d : Nat) : Nat :=
  let units := n * Nat.pow 2 f.scale
  let shift := Nat.log2 (units / d) - f.fractionBits
  min (shift * Nat.pow 2 f.fractionBits + roundHalfEven units (d * Nat.pow 2 shift)) f.infinity

structure Binary (f : Format) where
  negative : Bool
  magnitude : Nat
deriving DecidableEq

abbrev Single := Binary .single

abbrev Double := Binary .double

namespace Binary

variable {f : Format}

def isNaN (x : Binary f) : Bool :=
  f.infinity < x.magnitude

/-- Places the values that are numbers in their order; the two zeros agree. -/
def rank (x : Binary f) : Int :=
  if x.negative then -(x.magnitude : Int) else x.magnitude

/-- The value, or `least` if it is smaller or not a number. -/
def atLeast (least x : Binary f) : Binary f :=
  if x.isNaN ∨ x.rank < least.rank then least else x

def bits (x : Binary f) : Nat :=
  (if x.negative then f.signBit else 0) + x.magnitude

def ofBits (f : Format) (bits : Nat) : Binary f :=
  ⟨f.signBit ≤ bits, bits % f.signBit⟩

def ofNat (f : Format) (n : Nat) : Binary f :=
  ⟨false, f.nearest n 1⟩

/-- A magnitude as a whole significand times a power of two least values. -/
def significand (x : Binary f) : Nat :=
  if x.magnitude < Nat.pow 2 f.fractionBits then x.magnitude
  else x.magnitude % Nat.pow 2 f.fractionBits + Nat.pow 2 f.fractionBits

def unitExponent (x : Binary f) : Nat :=
  x.magnitude / Nat.pow 2 f.fractionBits - 1

def units (x : Binary f) : Nat :=
  x.significand * Nat.pow 2 x.unitExponent

def product (x y : Binary f) : Binary f :=
  ⟨x.negative != y.negative, f.nearest (x.units * y.units) (Nat.pow 2 f.scale * Nat.pow 2 f.scale)⟩

def quotient (x y : Binary f) : Binary f :=
  ⟨x.negative != y.negative, f.nearest x.units y.units⟩

end Binary

end BookingDesk.Number
