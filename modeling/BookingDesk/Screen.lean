import BookingDesk.Desk

/-!
The texts on the screen: the form, the status line, the table, and the warning in
front of them. The window is taken to be tall enough for the whole table, so that no row
is scrolled out of view.
-/

namespace BookingDesk

def windowTitle : String := "Gestion Salle des Fêtes - Projet BUT 1"

namespace Desk

def nameText (d : Desk) : String :=
  if d.draft.name = "" then "Nom du client" else d.draft.name

/-- The calendar's day once a date is chosen. -/
def dateText (d : Desk) : String :=
  (if d.draft.date.isSome then d.pickerDate.frenchText else "Choisir une date") ++ " 📆"

def formTexts (d : Desk) : List String :=
  [d.nameText, d.dateText, "Aujourd'hui", d.draft.kind.label, "Ajouter la réservation"]

def statusTexts (d : Desk) : List String :=
  ["Statut :", d.status]

def headingTexts : List String :=
  "Planning des Réservations" :: columns.map (·.title)

def tableTexts (d : Desk) : List String :=
  if d.table.rows = [] then ["Aucun contenu dans la table"] else d.table.rows.flatten

def warningTexts (d : Desk) : List String :=
  match d.warning with
  | some warning => ["⚠", warning.message, "OK", warning.title]
  | none => []

/-- All texts with anything to be seen, from the form to the warning. -/
def texts (d : Desk) : List String :=
  (d.formTexts ++ d.statusTexts ++ headingTexts ++ d.tableTexts ++ d.warningTexts).filter
    (· ≠ "")

end Desk

end BookingDesk
