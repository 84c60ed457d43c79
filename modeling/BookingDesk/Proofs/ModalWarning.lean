import BookingDesk.Proofs.Scheduling

/-!
A warning locks the window. While it is shown no gesture but a click on its button gets
through to the desk, and that click takes away the warning and nothing else. All that
the others can still do is to close a list of kinds that was left open.
-/

namespace BookingDesk

open Calendar

def Gesture.isClick : Gesture → Bool
  | .frame | .pressEnter => false
  | _ => true

namespace Window

open Desk

/-- A warning is shown on a settled screen. -/
structure Locked (w : Window) : Prop where
  warned : w.desk.warning.isSome = true
  still : w.desk.tick = w.desk
  unfocused : w.nameFocused = false

def shielded (w : Window) (clicked : Bool) : Window :=
  { w with kindListOpen := w.kindListOpen && !clicked }

theorem texts_shielded (w : Window) (clicked : Bool)
    (kept : (w.kindListOpen && clicked) = false) : (w.shielded clicked).texts = w.texts := by
  cases isOpen : w.kindListOpen <;> cases clicked <;> simp_all [texts, shielded]

theorem texts_eq_shielded (w : Window) (isOpen : w.kindListOpen = true) :
    w.texts = (w.shielded true).texts ++ EventKind.all.map EventKind.label := by
  simp [texts, shielded, isOpen]

namespace Locked

variable {w : Window}

theorem shielded (locked : w.Locked) (clicked : Bool) : (w.shielded clicked).Locked :=
  ⟨locked.warned, locked.still, locked.unfocused⟩

theorem idle (locked : w.Locked) : w.desk.pending = [] := by
  rw [← locked.still]
  exact w.desk.pending_tick

theorem disabled (locked : w.Locked) : w.enabled = false := by
  have warned := locked.warned
  rw [Option.isSome_iff_exists] at warned
  obtain ⟨warning, shown⟩ := warned
  simp [enabled, shown]

theorem settle (locked : w.Locked) : w.settle = w := by
  simp only [Window.settle, locked.still, locked.unfocused, Bool.false_and]
  rw [← locked.unfocused]

theorem click (locked : w.Locked) : w.click [] = w.shielded true := by
  have unfocused := locked.unfocused
  cases w
  subst unfocused
  simp [click_nil, Window.shielded]

/-- One gesture against the lock: at most it closes the list of kinds. -/
theorem act (locked : w.Locked) (g : Gesture) (other : g ≠ .clickOk) :
    (w.act g).window = w.shielded g.isClick := by
  have disabled := locked.disabled
  have clicked := locked.click
  have kept : w = w.shielded false := by simp [Window.shielded]
  cases g with
  | frame => exact kept
  | clickAdd => simpa [Window.act, disabled, Gesture.isClick] using clicked
  | clickToday => simpa [Window.act, disabled, Gesture.isClick] using clicked
  | clickOk => contradiction
  | typeName text => simpa [Window.act, typeName, disabled, Gesture.isClick] using clicked
  | pressEnter => simpa [Window.act, locked.unfocused, Gesture.isClick] using kept
  | chooseKind label => simpa [Window.act, disabled, Gesture.isClick] using clicked
  | useCalendar buttons => simpa [Window.act, disabled, Gesture.isClick] using clicked

theorem perform (locked : w.Locked) (g : Gesture) (other : g ≠ .clickOk) :
    (w.perform g).window = w.shielded g.isClick := by
  have acted := locked.act g other
  simp only [Window.perform, locked.settle]
  split
  · rw [acted]
    exact (locked.shielded g.isClick).settle
  · exact acted

theorem run (locked : w.Locked) (gestures : List Gesture)
    (others : ∀ g ∈ gestures, g ≠ .clickOk) :
    w.run (gestures.map .drawn) = w.shielded (gestures.any Gesture.isClick) := by
  induction gestures generalizing w with
  | nil => simp [Window.run, Window.shielded]
  | cons g rest ih =>
    have first : (w.step (.drawn g)).window = w.shielded g.isClick :=
      locked.perform g (others g List.mem_cons_self)
    have later := ih (locked.shielded g.isClick)
      (fun other member => others other (List.mem_cons_of_mem _ member))
    rw [← first] at later
    simp only [Window.run, List.map_cons, List.foldl_cons] at later ⊢
    rw [later, first]
    simp [Window.shielded, Bool.and_assoc]

theorem clickOk (locked : w.Locked) :
    w.perform .clickOk =
      ⟨{ w with desk := { w.desk with warning := none }, kindListOpen := false }, true⟩ := by
  have refreshed : w.desk.refreshTable = w.desk := by
    have still := locked.still
    rwa [tick, handleEvents_of_pending_nil w.desk locked.idle] at still
  have dismissed : (w.desk.raise .dismiss).tick = { w.desk with warning := none } := by
    rw [tick, handleEvents_raise w.desk .dismiss locked.idle]
    show { w.desk.refreshTable with warning := none } = _
    rw [refreshed]
  have acted : w.act .clickOk = ⟨w.click [.dismiss], true⟩ := by
    simp [Window.act, locked.disabled]
  have settled : (w.click [.dismiss]).settle =
      { w with desk := { w.desk with warning := none }, kindListOpen := false } := by
    simp only [Window.click, List.foldl_cons, List.foldl_nil, Window.settle, dismissed,
      Bool.false_and]
    rw [← locked.unfocused]
  rw [Window.perform, locked.settle, acted, ← settled]
  rfl

end Locked

theorem locked_of_settle (w : Window) (inStep : InStep w.desk)
    (warned : w.settle.desk.warning.isSome = true) : w.settle.Locked := by
  have hidden : w.desk.tick.warning.isNone = false := by simpa [settle] using warned
  exact ⟨warned, tick_tick w.desk inStep, by simp only [settle, hidden, Bool.and_false]⟩

theorem locked_of_perform (w : Window) (g : Gesture) (inStep : InStep w.desk)
    (warned : (w.perform g).window.desk.warning.isSome = true) :
    (w.perform g).window.Locked := by
  have settled := inStep_stable.step [] w.desk .tick inStep
  cases shown : (w.settle.act g).shown with
  | true =>
    obtain ⟨steps, reached⟩ := w.settle.act_reaches g
    have acted : InStep (w.settle.act g).window.desk :=
      reached ▸ inStep_stable.run [] w.settle.desk steps settled
    simp only [perform, shown, ↓reduceIte] at warned ⊢
    exact locked_of_settle _ acted warned
  | false =>
    -- The gesture found nothing to act on, so the lock was there before it.
    simp only [perform, shown, Bool.false_eq_true, ↓reduceIte] at warned ⊢
    rw [w.settle.desk_act_of_not_shown g shown] at warned
    have before := w.locked_of_settle inStep warned
    have other : g ≠ .clickOk := by
      rintro rfl
      simp [act, before.disabled] at shown
    rw [before.act g other]
    exact before.shielded g.isClick

/-- Once a gesture has ended with a warning on the screen, the desk takes no notice of
any gestures but a click on the warning's button: all its fields stay, nothing waits and
nothing is logged. The same texts are painted, save that a list of kinds which hung open
before the warning goes with the first click. The button then takes the warning away and
changes nothing else of the desk. -/
theorem warning_locks_desk (today : Date) (steps : List WindowStep) (last : Gesture)
    (gestures : List Gesture) :
    let w := (((opened today).run steps).perform last).window
    w.desk.warning.isSome = true → (∀ g ∈ gestures, g ≠ .clickOk) →
    let after := w.run (gestures.map .drawn)
    let freed := after.perform .clickOk
    after.desk = w.desk ∧ w.desk.pending = [] ∧
    (w.kindListOpen = false ∨ (∀ g ∈ gestures, g.isClick = false) → after.texts = w.texts) ∧
    (w.kindListOpen = true → (∃ g ∈ gestures, g.isClick = true) →
      w.texts = after.texts ++ EventKind.all.map EventKind.label) ∧
    freed.shown = true ∧ freed.window.desk = { w.desk with warning := none } := by
  intro w warned others after freed
  have inStep : InStep ((opened today).run steps).desk :=
    run_recorded inStep_stable (opened today) steps (opened_inStep today)
  have locked : w.Locked := locked_of_perform _ last inStep warned
  have reached : after = w.shielded (gestures.any Gesture.isClick) := locked.run gestures others
  have confirmed : freed = _ := (reached ▸ locked.shielded _ : after.Locked).clickOk
  have same : after.desk = w.desk := by rw [reached]; rfl
  refine ⟨same, locked.idle, ?_, ?_, ?_, ?_⟩
  · intro quiet
    rw [reached]
    apply texts_shielded
    rcases quiet with closed | unclicked
    · rw [closed, Bool.false_and]
    · rw [List.any_eq_false.mpr (by simpa using unclicked), Bool.and_false]
  · intro isOpen clicked
    rw [reached, List.any_eq_true.mpr clicked]
    exact w.texts_eq_shielded isOpen
  · rw [confirmed]
  · rw [confirmed, same]

/-- A list that was left open is painted over the warning until it is clicked at. -/
theorem open_list_goes_behind_warning :
    let today : Date := ⟨2025, 6, 14, by decide⟩
    let w := (((opened today).run
      [.drawn (.chooseKind "x"), .undrawn (.raise .submit)]).perform .pressEnter).window
    let painted := (w.run [.drawn (.chooseKind "x")]).perform .pressEnter
    w.desk.warning.isSome = true ∧ painted.shown = true ∧ painted.window.texts ≠ w.texts := by
  decide

/-- Typing, picking and adding in vain, with the list left open and the keyboard's focus
gone, until the button is clicked. -/
theorem warning_locks_blank_draft :
    let today : Date := ⟨2025, 6, 14, by decide⟩
    let steps : List WindowStep := [.drawn (.typeName " "), .drawn (.chooseKind "x"),
      .undrawn (.raise .submit)]
    let gestures : List Gesture := [.pressEnter, .typeName "Alice", .pressEnter, .clickToday,
      .useCalendar [.move .nextDay, .save], .chooseKind "Autre", .clickAdd, .frame]
    let w := (((opened today).run steps).perform .frame).window
    let after := w.run (gestures.map .drawn)
    w.desk.warning.isSome = true ∧ (∀ g ∈ gestures, g ≠ .clickOk) ∧ after.desk = w.desk ∧
      w.texts = after.texts ++ EventKind.all.map EventKind.label ∧
      (after.perform .clickOk).window.desk = { w.desk with warning := none } := by
  intro today steps gestures w after
  have warned : w.desk.warning.isSome = true := by decide
  have others : ∀ g ∈ gestures, g ≠ .clickOk := by decide
  obtain ⟨same, _, _, lost, _, freed⟩ :=
    warning_locks_desk today steps .frame gestures warned others
  refine ⟨warned, others, same, lost (by decide) (by decide), ?_⟩
  rw [freed]

end Window

end BookingDesk
