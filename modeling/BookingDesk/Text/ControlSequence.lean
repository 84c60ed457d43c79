/-!
Control sequences for terminals. An escape character begins one, and the characters
after it say how far it goes. What is left of a text without its sequences can be
shown anywhere: of the control characters only those that lay out lines remain.
-/

namespace BookingDesk.Text

inductive Mode where
  | plain
  /-- An escape character stands before. -/
  | escape
  /-- An escape sequence that waits for its last character. -/
  | escapeTail
  /-- The parameters of a control sequence. -/
  | parameters
  /-- A command to the operating system, up to a bell. -/
  | command
  /-- The start of a string for a device. -/
  | header
  /-- The parameters of such a string. -/
  | headerParameters
  /-- What stands between those parameters and the string itself. -/
  | headerTail
  /-- A string, up to its terminator. -/
  | body
deriving DecidableEq

def escapeChar : Char := '\x1b'

def bell : Char := '\x07'

/-- Cancel and substitute break off whatever has begun. -/
def isCancel (c : Char) : Bool :=
  c = '\x18' || c = '\x1a'

def isLayout (c : Char) : Bool :=
  c = '\t' || c = '\n' || c = '\x0c' || c = '\r'

def isWithin (low high : Nat) (c : Char) : Bool :=
  low ≤ c.toNat && c.toNat ≤ high

/-- The byte that ends a string; it does so inside a character too. -/
def stringEnd : UInt8 := 0x9C

def endsString (c : Char) : Bool :=
  (String.singleton c).toUTF8.toList.contains stringEnd

namespace Mode

def opened (c : Char) : Mode :=
  if c = '[' then .parameters
  else if c = ']' then .command
  else if c = 'P' then .header
  else if c = 'X' || c = '^' || c = '_' then .body
  else .plain

/-- Where a character leads that breaks nothing off. A header that a character out of
place spoils is skipped like a string. -/
def advance (mode : Mode) (c : Char) : Mode :=
  match mode with
  | .plain => .plain
  | .escape =>
    if isLayout c then .plain
    else if isWithin 0x20 0x2F c then .escapeTail
    else if isWithin 0x30 0x7E c then opened c
    else .escape
  | .escapeTail => if isLayout c || isWithin 0x30 0x7E c then .plain else .escapeTail
  | .parameters => if isLayout c || isWithin 0x40 0x7E c then .plain else .parameters
  | .command => if c = bell then .plain else .command
  | .header =>
    if isWithin 0x20 0x2F c then .headerTail
    else if isWithin 0x30 0x3F c then .headerParameters
    else if isWithin 0x40 0x7E c then .body
    else .header
  | .headerParameters =>
    if isWithin 0x20 0x2F c then .headerTail
    else if isWithin 0x3C 0x7E c then .body
    else .headerParameters
  | .headerTail => if isWithin 0x30 0x7E c then .body else .headerTail
  | .body => if endsString c then .plain else .body

def next (mode : Mode) (c : Char) : Mode :=
  if c = escapeChar then .escape
  else if isCancel c then .plain
  else mode.advance c

/-- The character is shown. Line layout also shows inside a sequence, which it ends,
but not inside a string. -/
def shows (mode : Mode) (c : Char) : Bool :=
  match mode with
  | .plain => isLayout c || (0x20 ≤ c.toNat && c.toNat ≠ 0x7F)
  | .escape | .escapeTail | .parameters => isLayout c
  | .command | .header | .headerParameters | .headerTail | .body => false

end Mode

def shownChars : Mode → List Char → List Char
  | _, [] => []
  | mode, c :: rest =>
    if mode.shows c then c :: shownChars (mode.next c) rest else shownChars (mode.next c) rest

def withoutControls (s : String) : String :=
  String.ofList (shownChars .plain s.toList)

end BookingDesk.Text
