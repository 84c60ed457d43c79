import BookingDesk.Number.Literal

/-!
The shortest decimal form of a binary value: the fewest digits that read back as
the same value and, of those, the ones nearest to it.
-/

namespace BookingDesk.Number

structure Decimal where
  coefficient : Nat
  exponent : Int
deriving DecidableEq

def Decimal.reduced (x : Decimal) : Decimal :=
  if x.coefficient = 0 ∨ x.coefficient % 10 ≠ 0 then x
  else reduced ⟨x.coefficient / 10, x.exponent + 1⟩
termination_by x.coefficient
decreasing_by
  rename_i whole
  have positive : x.coefficient ≠ 0 := fun zero => whole (Or.inl zero)
  exact Nat.div_lt_self (Nat.pos_of_ne_zero positive) (by decide)

namespace Binary

variable {f : Format}

/-- The number of digits before the decimal point; at most zero below one tenth. -/
def pointPlace (x : Binary f) : Int :=
  (digitCount (x.units * Nat.pow 10 f.scale / Nat.pow 2 f.scale) : Int) - f.scale

/-- On the grid of `10 ^ exponent`, the neighbour of the value that reads back as it;
of two, the nearer, and halfway between them the even one. -/
def onGrid (x : Binary f) (exponent : Int) : Option Decimal :=
  let n := x.units * Nat.pow 10 (-exponent).toNat
  let d := Nat.pow 2 f.scale * Nat.pow 10 exponent.toNat
  let below := n / d
  let near := roundHalfEven n d
  let far := if near = below then below + 1 else below
  [near, far].find? (fun c => f.nearestDecimal c exponent = x.magnitude) |>.map (⟨·, exponent⟩)

def shortest (x : Binary f) (digits : Nat) : Decimal :=
  let grid := fun count : Nat => x.onGrid (x.pointPlace - ((count + 1 : Nat) : Int))
  (((List.range digits).findSome? grid).getD ⟨x.units, 0⟩).reduced

end Binary

/-- Writes a decimal with its point, or with a power of ten where the point would
lie five places or more before the digits or beyond the sixteenth digit; the power
always bears its sign. -/
def Decimal.text (x : Decimal) : String :=
  let digits := Nat.toDigits 10 x.coefficient
  let point : Int := digits.length + x.exponent
  let zeros := fun n : Int => List.replicate n.toNat '0'
  let chars :=
    if 0 ≤ x.exponent ∧ point ≤ 16 then digits ++ zeros x.exponent ++ ['.', '0']
    else if 0 < point ∧ point ≤ 16 then
      digits.take point.toNat ++ ['.'] ++ digits.drop point.toNat
    else if -5 < point ∧ point ≤ 0 then ['0', '.'] ++ zeros (-point) ++ digits
    else
      let power := (if 0 < point then ['+'] else []) ++ (toString (point - 1)).toList
      match digits with
      | [digit] => [digit, 'e'] ++ power
      | first :: rest => [first, '.'] ++ rest ++ ['e'] ++ power
      | [] => []
  String.ofList chars

/-- Seventeen digits tell any two 64-bit values apart. -/
def Double.text (x : Double) : String :=
  let unsigned := if x.magnitude = 0 then "0.0" else (x.shortest 17).text
  if x.negative then "-" ++ unsigned else unsigned

end BookingDesk.Number
