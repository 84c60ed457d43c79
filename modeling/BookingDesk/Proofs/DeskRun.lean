import BookingDesk.Proofs.DeskRecord
import BookingDesk.Window

/-!
Runs of a window as runs of its desk. Whatever is done in the window comes down to steps
of the desk, so that a property which every single change of the desk keeps holds of the
desk in every window.
-/

namespace BookingDesk

namespace Desk

theorem handleEvents_of_pending_nil (d : Desk) (idle : d.pending = []) : d.handleEvents = d := by
  cases d
  subst idle
  rfl

theorem handleEvents_raise (d : Desk) (event : DeskEvent) (idle : d.pending = []) :
    (d.raise event).handleEvents = d.handle event := by
  cases d
  subst idle
  rfl

def Reaches (d e : Desk) : Prop :=
  ∃ steps, d.run steps = e

end Desk

namespace Window

open Desk

def actSteps (w : Window) : Gesture → List DeskStep
  | .frame => []
  | .clickAdd => if w.enabled then [.raise .submit] else []
  | .clickToday => if w.enabled then [.raise (.pick w.today)] else []
  | .clickOk => if w.enabled then [] else [.raise .dismiss]
  | .typeName text => if w.enabled then [.setName (w.desk.draft.name ++ typed text)] else []
  | .pressEnter => if w.nameFocused then [.raise .submit] else []
  | .chooseKind label =>
    if w.enabled && !w.kindListOpen then (EventKind.ofLabel? label).toList.map .setKind else []
  | .useCalendar buttons =>
    if w.enabled then
      (w.desk.pickerDate.pick buttons).toList.map fun date => .raise (.pick date)
    else []

/-- A gesture settles the screen, acts on it and, if it found what to act on, settles it
again. -/
def deskSteps (w : Window) : WindowStep → List DeskStep
  | .undrawn s => [s]
  | .drawn g =>
    .tick :: w.settle.actSteps g ++ if (w.settle.act g).shown then [.tick] else []

def runSteps (w : Window) : List WindowStep → List DeskStep
  | [] => []
  | s :: rest => w.deskSteps s ++ (w.step s).window.runSteps rest

theorem desk_act (w : Window) (g : Gesture) :
    (w.act g).window.desk = w.desk.run (w.actSteps g) := by
  cases g with
  | frame => rfl
  | clickAdd =>
    simp only [act, actSteps]
    split <;> rfl
  | clickToday =>
    simp only [act, actSteps]
    split <;> rfl
  | clickOk =>
    simp only [act, actSteps]
    split <;> rfl
  | typeName text =>
    simp only [act, actSteps, typeName]
    split <;> rfl
  | pressEnter =>
    simp only [act, actSteps]
    split <;> rfl
  | chooseKind label =>
    cases enabled : w.enabled <;> cases listed : w.kindListOpen <;>
      cases known : EventKind.ofLabel? label <;>
      simp [act, actSteps, choose, click_nil, Desk.run, enabled, listed, known]
  | useCalendar buttons =>
    simp only [act, actSteps]
    split
    · cases w.desk.pickerDate.pick buttons <;> rfl
    · rfl

theorem desk_step (w : Window) (s : WindowStep) :
    (w.step s).window.desk = w.desk.run (w.deskSteps s) := by
  cases s with
  | undrawn s => rfl
  | drawn g =>
    have acted := w.settle.desk_act g
    simp only [step, perform, deskSteps]
    split
    · show (w.settle.act g).window.desk.tick = _
      rw [acted, ← List.singleton_append, List.append_assoc, run_append, run_append]
      rfl
    · rw [acted, List.append_nil]
      rfl

/-- Whatever is done in a window, its desk goes through a run of its own. -/
theorem desk_run (w : Window) (steps : List WindowStep) :
    (w.run steps).desk = w.desk.run (w.runSteps steps) := by
  induction steps generalizing w with
  | nil => rfl
  | cons s rest ih =>
    have later := ih (w.step s).window
    rw [desk_step, ← run_append] at later
    exact later

theorem act_reaches (w : Window) (g : Gesture) : Reaches w.desk (w.act g).window.desk :=
  ⟨w.actSteps g, (w.desk_act g).symm⟩

theorem perform_reaches (w : Window) (g : Gesture) :
    Reaches w.desk (w.perform g).window.desk :=
  ⟨w.deskSteps (.drawn g), (w.desk_step (.drawn g)).symm⟩

theorem desk_act_of_not_shown (w : Window) (g : Gesture) (absent : (w.act g).shown = false) :
    (w.act g).window.desk = w.desk := by
  cases g with
  | frame => rfl
  | clickAdd => contradiction
  | clickToday => contradiction
  | clickOk =>
    simp only [act] at absent ⊢
    split at absent
    · rename_i enabled
      rw [if_pos enabled]
    · contradiction
  | typeName text => contradiction
  | pressEnter => contradiction
  | chooseKind label =>
    simp only [act, choose] at absent ⊢
    split
    · split
      · rfl
      · split
        · simp_all
        · rfl
    · rfl
  | useCalendar buttons =>
    simp only [act] at absent ⊢
    split at absent
    · contradiction
    · rename_i disabled
      rw [if_neg disabled]
      rfl

def occasions (w : Window) (steps : List WindowStep) : List Occasion :=
  w.desk.record (w.runSteps steps)

/-- A property that holds when a window is opened holds after whatever is done in it. -/
theorem run_recorded {P : List Occasion → Desk → Prop} (recorded : Recorded P) (w : Window)
    (steps : List WindowStep) (start : P [] w.desk) :
    P (w.occasions steps) (w.run steps).desk := by
  rw [w.desk_run steps]
  exact recorded.run [] w.desk (w.runSteps steps) start

end Window

end BookingDesk
