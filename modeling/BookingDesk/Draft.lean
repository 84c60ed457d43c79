import BookingDesk.Register

/-!
The form as it is being filled in, and its submission.
-/

namespace BookingDesk

open Calendar

structure Draft where
  name : String
  date : Option Date
  kind : EventKind
deriving DecidableEq

structure Attempt where
  register : Register
  draft : Draft
  warning : Option Warning
  status : String
  log : List LogEntry

namespace Draft

def blank : Draft := ⟨"", none, .preselected⟩

def request (d : Draft) : Request :=
  ⟨d.name, d.date, some d.kind⟩

/-- The form after a booking: the kind stays selected. -/
def cleared (d : Draft) : Draft :=
  { d with name := "", date := none }

def submit (d : Draft) (r : Register) : Except Missing (Booking × Draft) :=
  (r.book d.request).map fun booking => (booking, d.cleared)

def confirmation (client : String) : String :=
  "Réservation ajoutée pour " ++ client

def attempt (d : Draft) (r : Register) : Attempt :=
  match d.submit r with
  | .ok (booking, draft) =>
    { register := booking.register
      draft := draft
      warning := none
      status := confirmation booking.reservation.client
      log := booking.log ++ [.added booking.index booking.register.size] }
  | .error missing =>
    { register := r
      draft := d
      warning := some missing.warning
      status := missing.warning.message
      log := [.rejected missing] }

end Draft

end BookingDesk
