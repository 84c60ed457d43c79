import BookingDesk.Calendar.Date

/-!
The calendar sheet of the date button. A cursor moves by days, months and years,
and `Save` hands it over while `Cancel` does not.
-/

namespace BookingDesk.Calendar

inductive Move where
  | previousDay
  | nextDay
  | previousMonth
  | nextMonth
  | previousYear
  | nextYear
deriving DecidableEq

inductive Button where
  | move (m : Move)
  | save
  | cancel
deriving DecidableEq

namespace Button

def all : List Button :=
  [.move .previousYear, .move .previousMonth, .move .previousDay, .move .nextDay,
    .move .nextMonth, .move .nextYear, .cancel, .save]

def caption : Button → String
  | .move .previousDay => "<"
  | .move .nextDay => ">"
  | .move .previousMonth => "<<"
  | .move .nextMonth => ">>"
  | .move .previousYear => "<<<"
  | .move .nextYear => ">>>"
  | .save => "Save"
  | .cancel => "Cancel"

def ofCaption? (text : String) : Option Button :=
  all.find? (·.caption == text)

end Button

namespace Date

/-- The named day, or this one where the calendar ends. -/
def orStay (d : Date) (year : Int) (month day : Nat) : Date :=
  (ofFields? year month day).getD d

/-- The same day of another month, cut to that month's length. -/
def inMonth (d : Date) (year : Int) (month : Nat) : Date :=
  d.orStay year month (min d.day (daysInMonth year month))

def next (d : Date) : Date :=
  if d.day < daysInMonth d.year d.month then d.orStay d.year d.month (d.day + 1)
  else if d.month < 12 then d.orStay d.year (d.month + 1) 1
  else d.orStay (d.year + 1) 1 1

def previous (d : Date) : Date :=
  if 1 < d.day then d.orStay d.year d.month (d.day - 1)
  else if 1 < d.month then
    d.orStay d.year (d.month - 1) (daysInMonth d.year (d.month - 1))
  else d.orStay (d.year - 1) 12 31

def move (d : Date) : Move → Date
  | .previousDay => d.previous
  | .nextDay => d.next
  | .previousMonth =>
    if 1 < d.month then d.inMonth d.year (d.month - 1) else d.inMonth (d.year - 1) 12
  | .nextMonth =>
    if d.month < 12 then d.inMonth d.year (d.month + 1) else d.inMonth (d.year + 1) 1
  | .previousYear => d.inMonth (d.year - 1) d.month
  | .nextYear => d.inMonth (d.year + 1) d.month

/-- Presses the buttons in turn, from a cursor at `d`, until the sheet closes; gives
the saved day, if one is saved. -/
def pick (d : Date) : List Button → Option Date
  | [] => none
  | .move m :: buttons => (d.move m).pick buttons
  | .save :: _ => some d
  | .cancel :: _ => none

end Date

end BookingDesk.Calendar
