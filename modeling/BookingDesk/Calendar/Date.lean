/-!
Days of the Gregorian calendar, extended to all years from -262143 to 262142. A
`Date` is a day that exists; its texts write the year with at least four digits
and with a sign where it has more than four or lies before the year zero.
-/

namespace BookingDesk.Calendar

def isLeap (year : Int) : Bool :=
  year % 4 = 0 ∧ (year % 100 ≠ 0 ∨ year % 400 = 0)

def daysInMonth (year : Int) (month : Nat) : Nat :=
  if month = 2 then (if isLeap year then 29 else 28)
  else if month = 4 ∨ month = 6 ∨ month = 9 ∨ month = 11 then 30
  else 31

def firstYear : Int := -262143

def lastYear : Int := 262142

def IsDate (year : Int) (month day : Nat) : Prop :=
  (firstYear ≤ year ∧ year ≤ lastYear) ∧ (1 ≤ month ∧ month ≤ 12) ∧
    1 ≤ day ∧ day ≤ daysInMonth year month

instance (year : Int) (month day : Nat) : Decidable (IsDate year month day) := by
  unfold IsDate
  infer_instance

theorem daysInMonth_le (year : Int) (month : Nat) : daysInMonth year month ≤ 31 := by
  unfold daysInMonth
  split
  · split <;> decide
  · split <;> decide

structure Date where
  year : Int
  month : Nat
  day : Nat
  valid : IsDate year month day
deriving DecidableEq

namespace Date

def ofFields? (year : Int) (month day : Nat) : Option Date :=
  if h : IsDate year month day then some ⟨year, month, day, h⟩ else none

theorem ofFields?_fields (d : Date) : ofFields? d.year d.month d.day = some d := by
  simp [ofFields?, d.valid]

end Date

def padded (width n : Nat) : List Char :=
  (Nat.toDigits 10 n).leftpad width '0'

def yearDigits (year : Int) : List Char :=
  if year < 0 then '-' :: padded 4 year.natAbs
  else if 9999 < year then '+' :: padded 4 year.natAbs
  else padded 4 year.natAbs

namespace Date

/-- Year, month and day, as in `2025-06-14`. -/
def isoText (d : Date) : String :=
  String.ofList
    (yearDigits d.year ++ '-' :: padded 2 d.month ++ '-' :: padded 2 d.day)

/-- Day, month and year, as in `14/06/2025`. -/
def frenchText (d : Date) : String :=
  String.ofList
    (padded 2 d.day ++ '/' :: padded 2 d.month ++ '/' :: yearDigits d.year)

end Date

end BookingDesk.Calendar
