import BookingDesk.Number.Literal

/-!
Numerals valued in 64-bit arithmetic: the digits are gathered in a word, and the word
is multiplied or divided by a power of ten. Each step rounds, so that long numerals
can come out a last place away from the nearest value.
-/

namespace BookingDesk.Number

/-- Appends digits to a number as long as it fits 64 bits; also tells how many digits
are left. -/
def appendDigits (value : Nat) : List Char → Nat × Nat
  | [] => (value, 0)
  | c :: rest =>
    let longer := 10 * value + (c.toNat - 48)
    if longer < Nat.pow 2 64 then appendDigits longer rest else (value, rest.length + 1)

/-- The digits of a numeral that fit a word, and the power of ten that goes with them:
a digit left out before the point raises it, one taken behind the point lowers it. -/
def Numeral.gathered (n : Numeral) : Nat × Int :=
  let (whole, left) := appendDigits 0 n.whole
  let (word, unread) := appendDigits whole n.fraction
  (word, n.power + left - (n.fraction.length - unread : Nat))

namespace Double

def largestPower : Nat := 308

def ten (power : Nat) : Double :=
  .ofNat .double (Nat.pow 10 power)

def raise? (x : Double) (power : Nat) : Option Double :=
  if x.magnitude = 0 then some x
  else if largestPower < power then none
  else
    let y := x.product (ten power)
    if y.magnitude = Format.double.infinity then none else some y

/-- Divides by a power of ten, by the largest one for as long as more than that
remains. -/
def lower (x : Double) (power : Nat) : Double :=
  if x.magnitude = 0 then x
  else if power ≤ largestPower then x.quotient (ten power)
  else lower (x.quotient (ten largestPower)) (power - largestPower)
termination_by power
decreasing_by
  rename_i beyond
  have positive : 0 < largestPower := by decide
  omega

end Double

def Numeral.approximate? (negative : Bool) (n : Numeral) : Option Double :=
  let (word, power) := n.gathered
  let x : Double := ⟨negative, Format.double.nearest word 1⟩
  if 0 ≤ power then Double.raise? x power.toNat else some (Double.lower x (-power).toNat)

end BookingDesk.Number
