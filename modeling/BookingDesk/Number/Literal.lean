import BookingDesk.Number.Binary

/-!
Numbers as people write them: an optional sign, digits with an optional point and
an optional power of ten, or the words for infinity and for no number at all in
any mixture of cases.
-/

namespace BookingDesk.Number

/-- What a numeral denotes: `significand * 10 ^ exponent` with a sign, an infinity,
or no number. -/
inductive Literal where
  | finite (negative : Bool) (significand : Nat) (exponent : Int)
  | infinite (negative : Bool)
  | nan (negative : Bool)
deriving DecidableEq

inductive LiteralError where
  | empty
  | malformed
deriving DecidableEq

def LiteralError.message : LiteralError → String
  | .empty => "cannot parse float from empty string"
  | .malformed => "invalid float literal"

def digitsValue (digits : List Char) : Nat :=
  digits.foldl (fun value c => 10 * value + (c.toNat - 48)) 0

def digitCount (n : Nat) : Nat :=
  (Nat.toDigits 10 n).length

/-- Takes a sign off the front; `true` for a minus. -/
def takeSign : List Char → Bool × List Char
  | '-' :: rest => (true, rest)
  | '+' :: rest => (false, rest)
  | rest => (false, rest)

def exponentPart : List Char → Option Int
  | [] => some 0
  | mark :: rest =>
    let (negative, digits) := takeSign rest
    if (mark = 'e' ∨ mark = 'E') ∧ digits ≠ [] ∧ digits.all Char.isDigit then
      some (if negative then -(digitsValue digits : Int) else digitsValue digits)
    else none

def fractionPart : List Char → List Char × List Char
  | '.' :: rest => (rest.takeWhile Char.isDigit, rest.dropWhile Char.isDigit)
  | rest => ([], rest)

/-- A numeral made of digits, without its sign: those before the point, those behind
it, and the power of ten. -/
structure Numeral where
  whole : List Char
  fraction : List Char
  power : Int
deriving DecidableEq

def Numeral.parse? (cs : List Char) : Option Numeral :=
  let whole := cs.takeWhile Char.isDigit
  let (fraction, rest) := fractionPart (cs.dropWhile Char.isDigit)
  if whole ++ fraction = [] then none
  else (exponentPart rest).map (⟨whole, fraction, ·⟩)

namespace Literal

def ofNumeral (negative : Bool) (n : Numeral) : Literal :=
  .finite negative (digitsValue (n.whole ++ n.fraction)) (n.power - n.fraction.length)

def ofUnsigned? (negative : Bool) (cs : List Char) : Option Literal :=
  match String.ofList (cs.map Char.toLower) with
  | "nan" => some (.nan negative)
  | "inf" => some (.infinite negative)
  | "infinity" => some (.infinite negative)
  | _ => (Numeral.parse? cs).map (ofNumeral negative)

def parse (s : String) : Except LiteralError Literal :=
  if s.toList = [] then .error .empty
  else
    let (negative, rest) := takeSign s.toList
    match ofUnsigned? negative rest with
    | some literal => .ok literal
    | none => .error .malformed

end Literal

/-- The magnitude nearest to `significand * 10 ^ exponent`. With `size` digits before
the point the number lies from `10 ^ (size - 1)` up to `10 ^ size`, so the two ends
of the range need no power of ten. -/
def Format.nearestDecimal (f : Format) (significand : Nat) (exponent : Int) : Nat :=
  let size : Int := digitCount significand + exponent
  if significand = 0 ∨ size < -(f.scale : Int) then 0
  else if (Nat.pow 2 (f.exponentBits - 1) : Int) < size then f.infinity
  else f.nearest (significand * Nat.pow 10 exponent.toNat) (Nat.pow 10 (-exponent).toNat)

def Literal.toBinary (f : Format) : Literal → Binary f
  | .finite negative significand exponent =>
    ⟨negative, f.nearestDecimal significand exponent⟩
  | .infinite negative => ⟨negative, f.infinity⟩
  | .nan negative => ⟨negative, f.infinity + Nat.pow 2 (f.fractionBits - 1)⟩

end BookingDesk.Number
