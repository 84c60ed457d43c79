import BookingDesk.Proofs.ModalWarning
import BookingDesk.Proofs.ShownIsStored

/-!
A settled window is one on which another frame changes nothing. Every gesture that finds
what to act on leaves the window settled, and acts on a settled window at once.
-/

namespace BookingDesk

open Calendar

namespace Desk

theorem pending_of_still (d : Desk) (still : d.tick = d) : d.pending = [] := by
  rw [← still]
  exact d.pending_tick

theorem refreshTable_of_still (d : Desk) (still : d.tick = d) : d.refreshTable = d := by
  rwa [tick, handleEvents_of_pending_nil d (d.pending_of_still still)] at still

theorem tick_of_filled (d : Desk) (draft : Draft) (still : d.tick = d) :
    { d with draft := draft }.tick = { d with draft := draft } := by
  rw [tick, handleEvents_of_pending_nil { d with draft := draft } (d.pending_of_still still)]
  change { d.refreshTable with draft := draft } = { d with draft := draft }
  rw [d.refreshTable_of_still still]

theorem tick_raise_pick (d : Desk) (date : Date) (still : d.tick = d) :
    (d.raise (.pick date)).tick = d.picked date := by
  rw [tick, handleEvents_raise d (.pick date) (d.pending_of_still still)]
  change d.refreshTable.picked date = d.picked date
  rw [d.refreshTable_of_still still]

end Desk

namespace Window

open Desk

theorem inStep_run (today : Date) (steps : List WindowStep) :
    InStep ((opened today).run steps).desk :=
  run_recorded inStep_stable (opened today) steps (opened_inStep today)

/-- A gesture that has an effect leaves the focus in the name field or a list of kinds that
hangs open, never both. The day stays as it is. -/
theorem act_cases (w : Window) (g : Gesture) :
    (w.act g).window = w ∨ ∃ (desk : Desk) (focused listOpen : Bool),
      (w.act g).window = ⟨desk, w.today, focused, listOpen⟩ ∧
      (focused = true → listOpen = false) := by
  cases g with
  | frame => exact .inl rfl
  | clickAdd | clickToday => exact .inr ⟨_, false, false, rfl, by simp⟩
  | clickOk =>
    simp only [act]
    split
    · exact .inl rfl
    · exact .inr ⟨_, false, false, rfl, by simp⟩
  | typeName text =>
    simp only [act, typeName]
    split
    · exact .inr ⟨_, true, false, rfl, by simp⟩
    · exact .inr ⟨_, false, false, rfl, by simp⟩
  | pressEnter =>
    simp only [act]
    split
    · exact .inr ⟨_, false, w.kindListOpen, rfl, by simp⟩
    · exact .inl rfl
  | chooseKind label =>
    simp only [act, choose]
    split
    · split
      · exact .inr ⟨_, false, false, rfl, by simp⟩
      · split
        · exact .inr ⟨_, false, false, rfl, by simp⟩
        · exact .inr ⟨_, false, true, rfl, by simp⟩
    · exact .inr ⟨_, false, false, rfl, by simp⟩
  | useCalendar buttons =>
    simp only [act]
    split <;> exact .inr ⟨_, false, false, rfl, by simp⟩

theorem run_invariant {P : Window → Prop}
    (desk : ∀ (w : Window) (d : Desk), P w → P { w with desk := d })
    (settle : ∀ w : Window, P w → P w.settle)
    (act : ∀ (w : Window) (g : Gesture), P w → P (w.act g).window)
    (w : Window) (steps : List WindowStep) (start : P w) : P (w.run steps) := by
  have step : ∀ (w : Window) (s : WindowStep), P w → P (w.step s).window := by
    intro w s kept
    cases s with
    | undrawn s => exact desk w _ kept
    | drawn g =>
      have acted := act w.settle g (settle w kept)
      simp only [Window.step, perform]
      split
      · exact settle _ acted
      · exact acted
  induction steps generalizing w with
  | nil => exact start
  | cons s rest ih => exact ih (w.step s).window (step w s start)

/-- The table follows the register, and another frame changes nothing. -/
structure Settled (w : Window) : Prop where
  inStep : InStep w.desk
  still : w.settle = w

theorem settled_settle (w : Window) (inStep : InStep w.desk) : w.settle.Settled where
  inStep := inStep_stable.step [] w.desk .tick inStep
  still := by
    simp only [settle, tick_tick w.desk inStep, Bool.and_assoc, Bool.and_self]

theorem inStep_act (w : Window) (g : Gesture) (inStep : InStep w.desk) :
    InStep (w.act g).window.desk := by
  obtain ⟨steps, reached⟩ := w.act_reaches g
  exact reached ▸ inStep_stable.run [] w.desk steps inStep

theorem perform_of_shown (w : Window) (g : Gesture) (next : Window)
    (acted : w.settle.act g = ⟨next, true⟩) : w.perform g = ⟨next.settle, true⟩ := by
  simp only [perform, acted, if_true]

theorem settled_perform (w : Window) (g : Gesture) (inStep : InStep w.desk)
    (shown : (w.settle.act g).shown = true) : (w.perform g).window.Settled := by
  have acted := w.settle.inStep_act g (w.settled_settle inStep).inStep
  rw [w.perform_of_shown g (w.settle.act g).window (by rw [← shown])]
  exact settled_settle _ acted

theorem perform_frame (w : Window) (inStep : InStep w.desk) :
    w.perform .frame = ⟨w.settle, true⟩ := by
  rw [w.perform_of_shown .frame w.settle rfl, (w.settled_settle inStep).still]

theorem settle_of_free (w : Window) (desk : Desk) (done : w.desk.tick = desk)
    (free : desk.warning = none) : w.settle = { w with desk := desk } := by
  simp [settle, done, free]

namespace Settled

variable {w : Window}

theorem tick (settled : w.Settled) : w.desk.tick = w.desk :=
  congrArg Window.desk settled.still

theorem idle (settled : w.Settled) : w.desk.pending = [] :=
  w.desk.pending_of_still settled.tick

theorem locked (settled : w.Settled) (warned : w.desk.warning.isSome = true) : w.Locked := by
  have still := settled.still
  rw [← still] at warned ⊢
  exact w.locked_of_settle settled.inStep warned

theorem typeName (settled : w.Settled) (free : w.desk.warning = none) (text : String) :
    w.perform (.typeName text) =
      ⟨{ w with
          desk := w.desk.step (.setName (w.desk.draft.name ++ typed text))
          nameFocused := true
          kindListOpen := false }, true⟩ := by
  let named := w.desk.step (.setName (w.desk.draft.name ++ typed text))
  let filled : Window := ⟨named, w.today, true, false⟩
  have enabled : w.enabled = true := by simp [Window.enabled, free]
  have acted : w.settle.act (.typeName text) = ⟨filled, true⟩ := by
    simp only [settled.still, act, Window.typeName, enabled, if_true]
    rfl
  have done : named.tick = named := w.desk.tick_of_filled _ settled.tick
  rw [w.perform_of_shown _ filled acted, settle_of_free filled named done free]

theorem clickToday (settled : w.Settled) (free : w.desk.warning = none) :
    w.perform .clickToday =
      ⟨{ w with
          desk := w.desk.picked w.today
          nameFocused := false
          kindListOpen := false }, true⟩ := by
  have enabled : w.enabled = true := by simp [Window.enabled, free]
  have acted : w.settle.act .clickToday = ⟨w.click [.pick w.today], true⟩ := by
    simp only [settled.still, act, enabled, if_true]
  rw [w.perform_of_shown _ _ acted,
    settle_of_free (w.click [.pick w.today]) _ (w.desk.tick_raise_pick w.today settled.tick) free]
  rfl

end Settled

end Window

end BookingDesk
