import BookingDesk.Text.JoiningMark
import BookingDesk.Text.Unprintable

/-!
Quoted texts: a text between double quotes in which every character can be seen.
Six characters have short escapes, the other characters without ink and the
joining marks are shown by number, and all else stands for itself.
-/

namespace BookingDesk.Text

def shortEscape (c : Char) : Option Char :=
  if c = '\x00' then some '0'
  else if c = '\t' then some 't'
  else if c = '\r' then some 'r'
  else if c = '\n' then some 'n'
  else if c = '\x22' then some c
  else if c = '\x5c' then some c
  else none

def isShownByNumber (c : Char) : Bool :=
  isJoiningMark c || isUnprintable c

/-- The digits of a code point, in lower-case hexadecimal without leading zeros. -/
def hexDigits (c : Char) : List Char :=
  Nat.toDigits 16 c.toNat

def quoteChar (c : Char) : List Char :=
  match shortEscape c with
  | some letter => ['\x5c', letter]
  | none =>
    if isShownByNumber c then ['\x5c', 'u', '\x7b'] ++ hexDigits c ++ ['\x7d'] else [c]

def quote (s : String) : String :=
  String.ofList ('\x22' :: s.toList.flatMap quoteChar ++ ['\x22'])

theorem toList_quote (s : String) :
    (quote s).toList = '\x22' :: s.toList.flatMap quoteChar ++ ['\x22'] := by
  simp [quote]

end BookingDesk.Text
