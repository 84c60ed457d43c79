import BookingDesk.Text.Utf8

/-!
Command-line arguments by their shape, before any option is looked up. Arguments are
bytes; they need not be text.
-/

namespace BookingDesk.Launch

abbrev Argument := List UInt8

def dash : UInt8 := 0x2D

def equalsSign : UInt8 := 0x3D

/-- An option without its dashes may carry a value behind an equals sign; a cluster is
a row of letters behind a single dash. -/
inductive Shape where
  | separator
  | long (name : List UInt8) (value : Option (List UInt8))
  | cluster (letters : List UInt8)
  | plain
deriving DecidableEq

def attachedValue (bytes : List UInt8) : Option (List UInt8) :=
  match bytes.dropWhile (· ≠ equalsSign) with
  | [] => none
  | _ :: value => some value

/-- A single dash alone is an ordinary argument, two dashes alone end the options. -/
def shape (a : Argument) : Shape :=
  match a with
  | first :: second :: rest =>
    if first ≠ dash then .plain
    else if second ≠ dash then .cluster (second :: rest)
    else if rest = [] then .separator
    else .long (rest.takeWhile (· ≠ equalsSign)) (attachedValue rest)
  | _ => .plain

def shown (a : Argument) : String :=
  Text.Utf8.decodeLossy a

/-- How a message shows the first letter of a cluster; if the letters do not start with
a character, all of them. -/
def shownLetter (letters : List UInt8) : String :=
  match Text.Utf8.pieces letters with
  | some c :: _ => String.ofList ['-', c]
  | _ => "-" ++ shown letters

end BookingDesk.Launch
