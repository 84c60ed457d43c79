import BookingDesk.Proofs.DateText
import BookingDesk.Proofs.TableFollows

/-!
What the form shows is what is stored. The date button shows the calendar's day while
the register gets the draft's date; the two agree whenever the draft has a date.
-/

namespace BookingDesk

open Calendar

theorem EventKind.label_ne_empty (k : EventKind) : k.label ≠ "" := by
  cases k <;> decide

theorem Calendar.Date.isoText_ne_empty (d : Date) : d.isoText ≠ "" := by
  intro empty
  have characters := congrArg String.toList empty
  simp [Date.isoText] at characters

namespace Desk

def PickerAgrees (d : Desk) : Prop :=
  ∀ date, d.draft.date = some date → d.pickerDate = date

theorem opened_pickerAgrees (today : Date) : PickerAgrees (opened today) := by
  intro date chosen
  contradiction

theorem pickerAgrees_stable : Stable PickerAgrees where
  name := fun _ _ _ kept => kept
  kind := fun _ _ _ kept => kept
  pending := fun _ _ _ kept => kept
  handle := by
    intro _ d event kept
    rcases d.handle_cases event with ⟨date, _, _, done⟩ | ⟨_, _, done⟩ | ⟨_, _, _, done⟩ |
      ⟨date, _, _, _, _, done⟩ | ⟨missing, _, _, _, _, done⟩
    · rw [done]
      intro other chosen
      exact Option.some.inj chosen
    · rw [done]
      exact kept
    · rw [done]
      exact kept
    · rw [done]
      intro other chosen
      contradiction
    · rw [done]
      exact kept
  refresh := fun _ _ kept => kept

theorem formTexts_of_complete (d : Desk) (date : Date) (complete : d.draft.Complete date)
    (agrees : PickerAgrees d) :
    d.formTexts = [d.draft.name, date.frenchText ++ " 📆", "Aujourd'hui", d.draft.kind.label,
      "Ajouter la réservation"] := by
  have named := complete.name_ne_empty
  simp [formTexts, nameText, named, dateText, complete.2, agrees date complete.2]

theorem dateText_ne_empty (d : Desk) : d.dateText ≠ "" := by
  intro empty
  have characters := congrArg String.toList empty
  simp [dateText] at characters

theorem formTexts_prefix_texts (d : Desk) (date : Date) (complete : d.draft.Complete date) :
    d.formTexts <+: d.texts := by
  have named : d.nameText ≠ "" := by
    simp [nameText, complete.name_ne_empty]
  have painted : d.formTexts.filter (· ≠ "") = d.formTexts := by
    simp [formTexts, named, d.dateText_ne_empty, d.draft.kind.label_ne_empty]
  simp only [texts, List.append_assoc, List.filter_append]
  rw [painted]
  exact List.prefix_append _ _

theorem row_suffix_texts (d : Desk) (rows : List Row) (b : Reservation) (named : b.client ≠ "")
    (shown : d.table.rows = rows ++ [b.row]) (free : d.warning = none) :
    b.row <:+ d.texts := by
  have lines : d.tableTexts = rows.flatten ++ b.row := by
    simp [tableTexts, shown]
  have painted : b.row.filter (· ≠ "") = b.row := by
    simp [Reservation.row_eq, named, b.date.isoText_ne_empty, b.kind.label_ne_empty]
  simp only [texts, warningTexts, free, lines, List.append_nil, ← List.append_assoc,
    List.filter_append]
  rw [painted]
  exact List.suffix_append _ _

/-- Submitting a complete draft stores it and shows it in a new last row. -/
theorem submit_refreshed (d : Desk) (date : Date) (inStep : InStep d) (free : d.warning = none)
    (complete : d.draft.Complete date) :
    let after := (d.refreshTable.handle .submit).refreshTable
    after.register.reservations = d.register.reservations ++ [d.draft.reservation date] ∧
    after.table.rows = d.register.rows ++ [(d.draft.reservation date).row] ∧
    after.warning = none := by
  intro after
  have handled : d.refreshTable.handle .submit = d.refreshTable.booked date := by
    rw [← d.refreshTable.submit_of_complete date complete]
    simp [handle, refreshTable, free]
  have stored : after.register.reservations =
      d.register.reservations ++ [d.draft.reservation date] := by
    show (d.refreshTable.handle .submit).refreshTable.register.reservations = _
    rw [reservations_refreshTable, handled, ← reservations_refreshTable d]
    rfl
  have rows : after.table.rows = after.register.rows :=
    rows_refreshTable _ (inStep_stable.handle [] _ _ (inStep_stable.refresh [] d inStep))
  refine ⟨stored, ?_, ?_⟩
  · rw [rows, Register.rows, stored, List.map_append]
    rfl
  · show (d.refreshTable.handle .submit).warning = none
    rw [handled]
    rfl

end Desk

namespace Window

open Desk

theorem frame_desk (w : Window) (idle : w.desk.pending = []) :
    (w.perform .frame).window.desk = w.desk.refreshTable.refreshTable := by
  have once : w.desk.tick = w.desk.refreshTable := by
    rw [tick, handleEvents_of_pending_nil w.desk idle]
  have twice : w.desk.refreshTable.tick = w.desk.refreshTable.refreshTable := by
    rw [tick, handleEvents_of_pending_nil w.desk.refreshTable idle]
  simp only [perform, act, settle, ↓reduceIte, once, twice]

theorem clickAdd_eq (w : Window) (idle : w.desk.pending = []) (free : w.desk.warning = none) :
    w.perform .clickAdd =
      ⟨{ w with
          desk := (w.desk.refreshTable.handle .submit).refreshTable
          nameFocused := false
          kindListOpen := false }, true⟩ := by
  have once : w.desk.tick = w.desk.refreshTable := by
    rw [tick, handleEvents_of_pending_nil w.desk idle]
  have enabled : w.settle.enabled = true := by
    simp [settle, Window.enabled, once, refreshTable, free]
  have submitted : (w.desk.refreshTable.raise .submit).tick =
      (w.desk.refreshTable.handle .submit).refreshTable := by
    rw [tick, handleEvents_raise w.desk.refreshTable .submit idle]
  simp only [perform, act, enabled, ↓reduceIte, click, List.foldl_cons, List.foldl_nil]
  simp only [settle, once, submitted, Bool.false_and]

/-- Whatever was done in the window, the calendar's day is the draft's date if there is
one. A complete form shows its name, its date with the day first and its kind, and the add
button books just these and puts them in a new last row, where the year comes first. -/
theorem shown_is_stored (today : Date) (steps : List WindowStep) :
    let w := (opened today).run steps
    (∀ date, w.desk.draft.date = some date → w.desk.pickerDate = date) ∧
    ∀ date, w.desk.pending = [] → w.desk.warning = none →
      Text.allBlank w.desk.draft.name = false → w.desk.draft.date = some date →
      let name := w.desk.draft.name
      let kind := w.desk.draft.kind
      let day := figures 2 date.day
      let month := figures 2 date.month
      let year := yearFigures date.year
      let dayFirst := String.ofList (day ++ '/' :: month ++ '/' :: year)
      let yearFirst := String.ofList (year ++ '-' :: month ++ '-' :: day)
      let after := w.perform .clickAdd
      [name, dayFirst ++ " 📆", "Aujourd'hui", kind.label, "Ajouter la réservation"] <+:
        (w.perform .frame).window.texts ∧
      after.shown = true ∧
      after.window.desk.register.reservations =
        w.desk.register.reservations ++ [⟨name, date, kind⟩] ∧
      after.window.desk.table.rows = w.desk.register.rows ++ [[name, yearFirst, kind.label]] ∧
      [name, yearFirst, kind.label] <:+ after.window.texts := by
  intro w
  have agrees : PickerAgrees w.desk :=
    run_recorded pickerAgrees_stable (opened today) steps (opened_pickerAgrees today)
  have inStep : InStep w.desk :=
    run_recorded inStep_stable (opened today) steps (opened_inStep today)
  refine ⟨agrees, ?_⟩
  intro date idle free named dated name kind day month year dayFirst yearFirst after
  have button : date.frenchText = dayFirst := date.frenchText_eq
  have cell : date.isoText = yearFirst := date.isoText_eq
  rw [← button, ← cell]
  have complete : w.desk.draft.Complete date := ⟨named, dated⟩
  have clicked : after = _ := w.clickAdd_eq idle free
  have texts : after.window.texts = after.window.desk.texts := by
    simp [clicked, Window.texts]
  obtain ⟨stored, rows, unwarned⟩ := w.desk.submit_refreshed date inStep free complete
  have desk : after.window.desk = (w.desk.refreshTable.handle .submit).refreshTable := by
    rw [clicked]
  rw [← desk] at stored rows unwarned
  refine ⟨?_, by rw [clicked], stored, rows, ?_⟩
  · have form := formTexts_of_complete w.desk date complete agrees
    have painted := formTexts_prefix_texts (w.perform .frame).window.desk date (by
      rw [w.frame_desk idle]
      exact complete)
    have same : (w.perform .frame).window.desk.formTexts = w.desk.formTexts := by
      rw [w.frame_desk idle]
      rfl
    rw [same, form] at painted
    exact painted.trans (List.prefix_append _ _)
  · rw [texts]
    exact row_suffix_texts after.window.desk w.desk.register.rows
      (w.desk.draft.reservation date) complete.name_ne_empty rows unwarned

/-- A name is typed, a day is picked and another one after it, and the form is added. -/
theorem second_pick_is_stored :
    let today : Date := ⟨2025, 6, 14, by decide⟩
    let next : Date := ⟨2025, 6, 15, by decide⟩
    let steps : List WindowStep := [.drawn (.typeName "Alice Dupont"), .drawn .clickToday,
      .drawn (.useCalendar [.move .nextDay, .save])]
    let w := (opened today).run steps
    let after := (w.perform .clickAdd).window
    w.desk.pending = [] ∧ w.desk.warning = none ∧
      ["Alice Dupont", "15/06/2025 📆", "Aujourd'hui", "Mariage", "Ajouter la réservation"] <+:
        (w.perform .frame).window.texts ∧
      after.desk.register.reservations = [⟨"Alice Dupont", next, .wedding⟩] ∧
      after.desk.table.rows = [["Alice Dupont", "2025-06-15", "Mariage"]] ∧
      ["Alice Dupont", "2025-06-15", "Mariage"] <:+ after.texts := by
  intro today next steps
  have shown := (shown_is_stored today steps).2 next
  have idle : ((opened today).run steps).desk.pending = [] := by decide
  have free : ((opened today).run steps).desk.warning = none := by decide
  have dated : ((opened today).run steps).desk.draft.date = some next := by decide
  have name : ((opened today).run steps).desk.draft.name = "Alice Dupont" := by decide
  have kind : ((opened today).run steps).desk.draft.kind = .wedding := by decide
  have fresh : ((opened today).run steps).desk.register.reservations = [] := by decide
  have dayFirst : String.ofList (figures 2 next.day ++ '/' :: figures 2 next.month ++
      '/' :: yearFigures next.year) ++ " 📆" = "15/06/2025 📆" := by decide
  have yearFirst : String.ofList (yearFigures next.year ++ '-' :: figures 2 next.month ++
      '-' :: figures 2 next.day) = "2025-06-15" := by decide
  -- From here on the run itself is not looked at.
  generalize (opened today).run steps = w at *
  have named : Text.allBlank w.desk.draft.name = false := by
    rw [name]
    decide
  obtain ⟨form, _, stored, rows, row⟩ := shown idle free named dated
  rw [name, kind] at form stored rows row
  rw [dayFirst] at form
  rw [fresh] at stored
  rw [Register.rows, fresh, yearFirst] at rows
  rw [yearFirst] at row
  exact ⟨idle, free, form, stored, rows, row⟩

end Window

end BookingDesk
