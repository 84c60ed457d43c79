import BookingDesk.Register

/-!
The table of rendered rows. It follows the register by its announcements: one that
tells of the very next row adds that row, and any other has the table made anew.
-/

namespace BookingDesk

structure Table where
  rows : List Row
deriving DecidableEq

namespace Table

def empty : Table := ⟨[]⟩

def ofReservations (reservations : List Reservation) : Table :=
  ⟨reservations.map Reservation.row⟩

/-- The reservation that the announcement adds at the table's end, if it does so. -/
def nextRow? (t : Table) (reservations : List Reservation) (a : Announcement) :
    Option Reservation :=
  if t.rows.length = a.index then reservations[a.index]? else none

def apply (t : Table) (reservations : List Reservation) (a : Announcement) :
    Table × List LogEntry :=
  match t.nextRow? reservations a with
  | some b => (⟨t.rows ++ [b.row]⟩, [])
  | none => (ofReservations reservations, [.rebuilt reservations.length])

def applyAll (t : Table) (reservations : List Reservation) :
    List Announcement → Table × List LogEntry
  | [] => (t, [])
  | a :: rest =>
    let first := t.apply reservations a
    let others := first.1.applyAll reservations rest
    (others.1, first.2 ++ others.2)

end Table

end BookingDesk
