import BookingDesk.Calendar.Picker
import BookingDesk.Screen

/-!
The window and what a user can do in it. Every gesture starts and ends on a settled
screen, one on which all events have been handled. While a warning is shown the form
is disabled and only the warning's button works; a click elsewhere can still close the
list of kinds.
-/

namespace BookingDesk

open Calendar

structure Window where
  desk : Desk
  today : Date
  /-- The name field has the keyboard focus. -/
  nameFocused : Bool
  /-- The list of kinds hangs open over the form. -/
  kindListOpen : Bool
deriving DecidableEq

inductive Gesture where
  | frame
  | clickAdd
  | clickToday
  | clickOk
  | typeName (text : String)
  | pressEnter
  | chooseKind (label : String)
  | useCalendar (buttons : List Button)
deriving DecidableEq

inductive WindowStep where
  | undrawn (step : DeskStep)
  | drawn (gesture : Gesture)
deriving DecidableEq

structure Response where
  window : Window
  shown : Bool
deriving DecidableEq

namespace Window

def opened (today : Date) : Window :=
  ⟨.opened today, today, false, false⟩

/-- Draws frames until nothing changes: one handles all events, and a warning that it
draws takes the focus from the name field. -/
def settle (w : Window) : Window :=
  let desk := w.desk.tick
  { w with desk := desk, nameFocused := w.nameFocused && desk.warning.isNone }

def enabled (w : Window) : Bool :=
  w.desk.warning.isNone

def texts (w : Window) : List String :=
  w.desk.texts ++ if w.kindListOpen then EventKind.all.map EventKind.label else []

/-- A click outside the name field that raises the given events. It closes the list of
kinds. -/
def click (w : Window) (events : List DeskEvent) : Window :=
  { w with
    desk := events.foldl Desk.raise w.desk
    nameFocused := false
    kindListOpen := false }

theorem click_nil (w : Window) :
    w.click [] = { w with nameFocused := false, kindListOpen := false } := rfl

/-- Clicks the list of kinds and then a label in it. The first click closes a list that
is open, and one that it opens stays so if the label is not there. -/
def choose (w : Window) (label : String) : Response :=
  let clicked := w.click []
  if w.kindListOpen then ⟨clicked, false⟩
  else match EventKind.ofLabel? label with
    | some kind => ⟨{ clicked with desk := clicked.desk.step (.setKind kind) }, true⟩
    | none => ⟨{ clicked with kindListOpen := true }, false⟩

/-- What typing a text adds to the name. A line end on its own adds nothing. -/
def typed (text : String) : String :=
  if text = "\n" ∨ text = "\r" then "" else text

def typeName (w : Window) (text : String) : Window :=
  let clicked := w.click []
  if w.enabled then
    { clicked with
      desk := clicked.desk.step (.setName (clicked.desk.draft.name ++ typed text))
      nameFocused := true }
  else clicked

def enter (w : Window) : Window :=
  { w with desk := w.desk.raise .submit, nameFocused := false }

def act (w : Window) : Gesture → Response
  | .frame => ⟨w, true⟩
  | .clickAdd => ⟨w.click (if w.enabled then [.submit] else []), true⟩
  | .clickToday => ⟨w.click (if w.enabled then [.pick w.today] else []), true⟩
  | .clickOk => if w.enabled then ⟨w, false⟩ else ⟨w.click [.dismiss], true⟩
  | .typeName text => ⟨w.typeName text, true⟩
  | .pressEnter => ⟨if w.nameFocused then w.enter else w, true⟩
  | .chooseKind label => if w.enabled then w.choose label else ⟨w.click [], false⟩
  | .useCalendar buttons =>
    if w.enabled then
      ⟨w.click ((w.desk.pickerDate.pick buttons).toList.map .pick), true⟩
    else ⟨w.click [], false⟩

def perform (w : Window) (g : Gesture) : Response :=
  let response := w.settle.act g
  if response.shown then { response with window := response.window.settle } else response

/-- Performs a step; without drawing, only the desk changes. -/
def step (w : Window) : WindowStep → Response
  | .undrawn s => ⟨{ w with desk := w.desk.step s }, true⟩
  | .drawn g => w.perform g

def run (w : Window) (steps : List WindowStep) : Window :=
  steps.foldl (fun w s => (w.step s).window) w

def loggedSince (w earlier : Window) : List LogEntry :=
  w.desk.journal.drop earlier.desk.journal.length

end Window

end BookingDesk
