import BookingDesk.Number.Approximate
import BookingDesk.Number.Shortest
import BookingDesk.Text.Quoted

/-!
JSON values. A numeral without a point or a power of ten is an integer as long as
it fits 64 bits, signed or unsigned; every other numeral is a 64-bit binary value.
-/

namespace BookingDesk

open Number

inductive Json where
  | null
  | boolean (value : Bool)
  | integer (value : Int)
  | real (value : Double)
  | string (text : String)
  | array (items : List Json)
  | object (fields : List (String × Json))

namespace Json

def fitsWord (n : Int) : Bool :=
  -(Nat.pow 2 63 : Int) ≤ n ∧ n < (Nat.pow 2 64 : Int)

/-- The value of a numeral, or nothing if it overflows. A minus zero is no integer,
since it would lose its sign. -/
def ofNumeral? (text : String) : Option Json :=
  let (negative, digits) := takeSign text.toList
  (Numeral.parse? digits).bind fun numeral =>
    let size := digitsValue numeral.whole
    let value : Int := if negative then -(size : Int) else size
    if digits.all Char.isDigit ∧ fitsWord value ∧ ¬ (negative ∧ size = 0) then
      some (.integer value)
    else (numeral.approximate? negative).map .real

def describe : Json → String
  | .null => "null"
  | .boolean value => "boolean `" ++ (if value then "true" else "false") ++ "`"
  | .integer value => "integer `" ++ toString value ++ "`"
  | .real value => "floating point `" ++ Double.text value ++ "`"
  | .string text => "string " ++ Text.quote text
  | .array _ => "sequence"
  | .object _ => "map"

end Json

end BookingDesk
