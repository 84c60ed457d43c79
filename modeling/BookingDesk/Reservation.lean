import BookingDesk.Calendar.Date
import BookingDesk.EventKind

/-!
Reservations, the requests they come from, and their rows in the table.
-/

namespace BookingDesk

open Calendar Number

structure Reservation where
  client : String
  date : Date
  kind : EventKind
deriving DecidableEq

structure Warning where
  title : String
  message : String
deriving DecidableEq

inductive Missing where
  | name
  | date
deriving DecidableEq

namespace Missing

def message : Missing → String
  | .name => "client name is missing"
  | .date => "event date is missing"

/-- The same for every field. -/
def warning (_ : Missing) : Warning :=
  ⟨"Erreur", "Veuillez remplir tous les champs."⟩

end Missing

structure Request where
  name : String
  date : Option Date
  kind : Option EventKind
deriving DecidableEq

/-- Wants a name that is not blank, then a date. The name is kept as given. -/
def Request.check (q : Request) : Except Missing Reservation :=
  if Text.trim q.name = "" then .error .name
  else match q.date with
    | none => .error .date
    | some date => .ok ⟨q.name, date, q.kind.getD .preselected⟩

abbrev Row := List String

structure Column where
  title : String
  minWidth : Single
  cell : Reservation → String

def columnWidth : Single := .ofNat .single 150

def columns : List Column :=
  [⟨"Nom du Client", columnWidth, fun b => b.client⟩,
    ⟨"Date de l'événement", columnWidth, fun b => b.date.isoText⟩,
    ⟨"Type d'événement", columnWidth, fun b => b.kind.label⟩]

namespace Reservation

def row (b : Reservation) : Row :=
  columns.map fun column => column.cell b

theorem row_eq (b : Reservation) : b.row = [b.client, b.date.isoText, b.kind.label] := rfl

def toJson (b : Reservation) : Json :=
  .object [("client_name", .string b.client), ("date", .string b.date.isoText),
    ("event_type", b.kind.toJson)]

end Reservation

end BookingDesk
