import BookingDesk.Draft
import BookingDesk.Table

/-!
The booking desk: the register, the table that follows it, the form, and the events
raised by the form that wait to be handled.
-/

namespace BookingDesk

open Calendar

inductive DeskEvent where
  | submit
  | pick (date : Date)
  | dismiss
deriving DecidableEq

structure Desk where
  register : Register
  table : Table
  draft : Draft
  /-- The day the calendar opens at; only the draft's date counts as chosen. -/
  pickerDate : Date
  warning : Option Warning
  pending : List DeskEvent
  status : String
  /-- All that has been logged, oldest first. -/
  journal : List LogEntry
deriving DecidableEq

inductive DeskStep where
  | setName (name : String)
  | setKind (kind : EventKind)
  | raise (event : DeskEvent)
  | handleEvents
  | refreshTable
  | tick
deriving DecidableEq

namespace Desk

/-- The handle of the desk, which is the first subscriber of its register. -/
def feed : Nat := 0

def idleStatus : String := "Aucune réservation"

def opened (today : Date) : Desk where
  register := Register.empty.subscribe
  table := .empty
  draft := .blank
  pickerDate := today
  warning := none
  pending := []
  status := idleStatus
  journal := []

def undelivered (d : Desk) : List Announcement :=
  d.register.queue feed

def raise (d : Desk) (event : DeskEvent) : Desk :=
  { d with pending := d.pending ++ [event] }

def submit (d : Desk) : Desk :=
  let attempt := d.draft.attempt d.register
  { d with
    register := attempt.register
    draft := attempt.draft
    warning := attempt.warning
    status := attempt.status
    journal := d.journal ++ attempt.log }

/-- Handles one event. As long as a warning is shown nothing can be submitted. -/
def handle (d : Desk) : DeskEvent → Desk
  | .submit => if d.warning.isSome then d else d.submit
  | .pick date => { d with pickerDate := date, draft := { d.draft with date := some date } }
  | .dismiss => { d with warning := none }

def handleEvents (d : Desk) : Desk :=
  d.pending.foldl handle { d with pending := [] }

def refreshTable (d : Desk) : Desk :=
  let update := d.table.applyAll d.register.reservations d.undelivered
  { d with
    register := d.register.drain feed
    table := update.1
    journal := d.journal ++ update.2 }

/-- What happens before each frame is drawn. -/
def tick (d : Desk) : Desk :=
  d.handleEvents.refreshTable

def step (d : Desk) : DeskStep → Desk
  | .setName name => { d with draft := { d.draft with name := name } }
  | .setKind kind => { d with draft := { d.draft with kind := kind } }
  | .raise event => d.raise event
  | .handleEvents => d.handleEvents
  | .refreshTable => d.refreshTable
  | .tick => d.tick

def run (d : Desk) (steps : List DeskStep) : Desk :=
  steps.foldl step d

theorem run_append (d : Desk) (first second : List DeskStep) :
    d.run (first ++ second) = (d.run first).run second :=
  List.foldl_append

end Desk

end BookingDesk
