import BookingDesk.Proofs.SettledWindow

/-!
The enter key and the add button. In the name field the key does what the button does;
elsewhere it does nothing. It takes the focus along, so pressing it again has no effect.
-/

namespace BookingDesk

open Calendar

namespace Window

open Desk

/-- No list of kinds hangs open while the name field has the focus. -/
def FocusAlone (w : Window) : Prop :=
  w.nameFocused = true → w.kindListOpen = false

theorem focusAlone_settle (w : Window) (alone : w.FocusAlone) : w.settle.FocusAlone := by
  intro focused
  have before := (Bool.and_eq_true_iff.mp focused).1
  exact alone before

theorem focusAlone_act (w : Window) (g : Gesture) (alone : w.FocusAlone) :
    (w.act g).window.FocusAlone := by
  rcases w.act_cases g with same | ⟨_, _, _, acted, apart⟩
  · rw [same]
    exact alone
  · rw [acted]
    exact apart

theorem focusAlone_run (today : Date) (steps : List WindowStep) :
    ((opened today).run steps).FocusAlone :=
  run_invariant (fun _ _ alone => alone) focusAlone_settle focusAlone_act (opened today) steps
    (fun _ => rfl)

theorem free_of_focused (w : Window) (focused : w.settle.nameFocused = true) :
    w.settle.desk.warning = none :=
  Option.isNone_iff_eq_none.mp (Bool.and_eq_true_iff.mp focused).2

theorem pressEnter_of_focused (w : Window) (alone : w.FocusAlone)
    (focused : w.settle.nameFocused = true) : w.perform .pressEnter = w.perform .clickAdd := by
  have closed := w.focusAlone_settle alone focused
  have enabled : w.settle.enabled = true := by
    simp [enabled, w.free_of_focused focused]
  have entered : w.settle.act .pressEnter = ⟨w.settle.enter, true⟩ := by
    simp only [act, focused, if_true]
  have clicked : w.settle.act .clickAdd = ⟨w.settle.click [.submit], true⟩ := by
    simp only [act, enabled, if_true]
  have same : w.settle.enter = w.settle.click [.submit] := by
    simp only [enter, click, List.foldl_cons, List.foldl_nil, closed]
  rw [w.perform_of_shown _ _ entered, w.perform_of_shown _ _ clicked, same]

theorem pressEnter_of_unfocused (w : Window) (inStep : InStep w.desk)
    (unfocused : w.settle.nameFocused = false) : w.perform .pressEnter = ⟨w.settle, true⟩ := by
  have acted : w.settle.act .pressEnter = ⟨w.settle, true⟩ := by
    simp only [act, unfocused, Bool.false_eq_true, if_false]
  rw [w.perform_of_shown _ _ acted, (w.settled_settle inStep).still]

theorem unfocused_pressEnter (w : Window) (inStep : InStep w.desk) :
    (w.perform .pressEnter).window.nameFocused = false := by
  cases focused : w.settle.nameFocused with
  | true =>
    have entered : w.settle.act .pressEnter = ⟨w.settle.enter, true⟩ := by
      simp only [act, focused, if_true]
    rw [w.perform_of_shown _ _ entered]
    rfl
  | false => rw [w.pressEnter_of_unfocused inStep focused, focused]

/-- Whatever was done in the window: if the name field has the focus once the screen is
settled, no warning is shown and the enter key leads to the same window, with the same
texts and the same journal, as a click on the add button. If it does not have the focus,
the key does no more than a frame, which is to settle the screen. And pressing the key a
second time changes nothing and adds nothing to the journal. -/
theorem enter_adds_once (today : Date) (steps : List WindowStep) :
    let w := (opened today).run steps
    let once := w.perform .pressEnter
    let twice := once.window.perform .pressEnter
    (w.settle.nameFocused = true →
      w.settle.desk.warning = none ∧ once = w.perform .clickAdd) ∧
    (w.settle.nameFocused = false → once = w.perform .frame ∧ once = ⟨w.settle, true⟩) ∧
    twice = once ∧ twice.window.texts = once.window.texts ∧
    twice.window.loggedSince once.window = [] := by
  intro w once twice
  have inStep : InStep w.desk := inStep_run today steps
  have alone : w.FocusAlone := focusAlone_run today steps
  have again : twice = once := by
    have settled : once.window.Settled := w.settled_perform .pressEnter inStep rfl
    have unfocused := w.unfocused_pressEnter inStep
    have nothing := once.window.pressEnter_of_unfocused settled.inStep
      (by rw [settled.still]; exact unfocused)
    rw [settled.still] at nothing
    exact nothing
  refine ⟨?_, ?_, again, ?_, ?_⟩
  · intro focused
    exact ⟨w.free_of_focused focused, w.pressEnter_of_focused alone focused⟩
  · intro unfocused
    have settled := w.pressEnter_of_unfocused inStep unfocused
    exact ⟨settled.trans (w.perform_frame inStep).symm, settled⟩
  · rw [again]
  · rw [again]
    exact List.drop_length

/-- A name is typed and a day waits to be taken over: the key books as the button does.
Where the day was taken by a click, the name field has lost the focus. -/
theorem enter_books_alice :
    let today : Date := ⟨2025, 6, 14, by decide⟩
    let day : Date := ⟨2024, 2, 29, by decide⟩
    let steps : List WindowStep := [.drawn (.typeName "Alice"), .undrawn (.raise (.pick day))]
    let more : List WindowStep := [.drawn (.typeName "Alice"), .drawn .clickToday]
    let w := (opened today).run steps
    let later := (opened today).run more
    w.settle.nameFocused = true ∧ w.perform .pressEnter = w.perform .clickAdd ∧
      (w.perform .pressEnter).window.desk.register.reservations = [⟨"Alice", day, .wedding⟩] ∧
      later.settle.nameFocused = false ∧ later.perform .pressEnter = later.perform .frame := by
  intro today day steps more
  have focused : ((opened today).run steps).settle.nameFocused = true := by decide
  have unfocused : ((opened today).run more).settle.nameFocused = false := by decide
  obtain ⟨agree, _⟩ := enter_adds_once today steps
  obtain ⟨_, idle, _⟩ := enter_adds_once today more
  exact ⟨focused, (agree focused).2, by decide, unfocused, (idle unfocused).1⟩

end Window

end BookingDesk
