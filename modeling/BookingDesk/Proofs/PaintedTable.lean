import BookingDesk.Proofs.ShownIsStored
import BookingDesk.Proofs.StatusLine

/-!
The painted table is the register, complete and in order. Only texts with something in
them are painted, but there are no others: no name in the register is blank, and every
date, label and status line has characters.
-/

namespace BookingDesk

open Calendar

namespace Desk

/-- Everything that is to be painted has characters. -/
structure Legible (d : Desk) : Prop where
  status : d.status ≠ ""
  clients : ∀ b ∈ d.register.reservations, b.client ≠ ""
  warning : ∀ warning, d.warning = some warning → warning.message ≠ "" ∧ warning.title ≠ ""

theorem Truthful.status_ne_empty {past : List Occasion} {d : Desk} (truthful : Truthful past d) :
    d.status ≠ "" := by
  rcases truthful.idle_or_reports with idle | warned | ⟨b, _, confirmed⟩
  · rw [idle]
    decide
  · rw [warned]
    decide
  · intro empty
    rw [confirmed] at empty
    have words := (String.append_eq_empty_iff.mp empty).1
    contradiction

theorem legible_of_recorded (past : List Occasion) (d : Desk) (truthful : Truthful past d)
    (stored : d.register.reservations = past.filterMap Occasion.reservation?) : Legible d where
  status := truthful.status_ne_empty
  clients := by
    intro b member empty
    rw [stored, List.mem_filterMap] at member
    obtain ⟨o, _, added⟩ := member
    have named := o.named_of_reservation? b added
    rw [empty] at named
    exact absurd named (by decide)
  warning := by
    intro warning shown
    rw [(truthful.warned warning shown).1]
    decide

theorem formTexts_legible (d : Desk) : "" ∉ d.formTexts := by
  have named : d.nameText ≠ "" := by
    unfold nameText
    split
    · decide
    · assumption
  simp [formTexts, named.symm, d.dateText_ne_empty.symm, d.draft.kind.label_ne_empty.symm]

theorem rows_legible (reservations : List Reservation) (named : ∀ b ∈ reservations, b.client ≠ "") :
    "" ∉ reservations.flatMap Reservation.row := by
  intro member
  obtain ⟨b, stored, cell⟩ := List.mem_flatMap.mp member
  simp [Reservation.row_eq, (named b stored).symm, b.date.isoText_ne_empty.symm,
    b.kind.label_ne_empty.symm] at cell

theorem length_rows (reservations : List Reservation) :
    (reservations.flatMap Reservation.row).length = 3 * reservations.length := by
  induction reservations with
  | nil => rfl
  | cons b rest ih =>
    rw [List.flatMap_cons, List.length_append, ih, Reservation.row_eq]
    simp only [List.length_cons, List.length_nil]
    omega

def registerTexts (reservations : List Reservation) : List String :=
  if reservations = [] then ["Aucun contenu dans la table"]
  else reservations.flatMap Reservation.row

theorem length_registerTexts (reservations : List Reservation) :
    (registerTexts reservations).length =
      if reservations.length = 0 then 1 else 3 * reservations.length := by
  cases reservations with
  | nil => rfl
  | cons b rest => exact length_rows (b :: rest)

theorem registerTexts_eq_note_iff (reservations : List Reservation) :
    registerTexts reservations = ["Aucun contenu dans la table"] ↔ reservations.length = 0 := by
  constructor
  · intro note
    have count := congrArg List.length note
    rw [length_registerTexts, List.length_singleton] at count
    split at count <;> omega
  · intro none
    rw [List.length_eq_zero_iff.mp none]
    rfl

theorem tableTexts_eq (d : Desk) (complete : d.table.rows = d.register.rows) :
    d.tableTexts = registerTexts d.register.reservations := by
  simp [tableTexts, registerTexts, complete, Register.rows, List.flatMap_def]

theorem texts_eq (d : Desk) (legible : Legible d) (complete : d.table.rows = d.register.rows) :
    d.texts = d.formTexts ++ d.statusTexts ++ headingTexts ++
      registerTexts d.register.reservations ++ d.warningTexts := by
  have form := d.formTexts_legible
  have status : "" ∉ d.statusTexts := by simp [statusTexts, legible.status.symm]
  have heading : "" ∉ headingTexts := by decide
  have table : "" ∉ registerTexts d.register.reservations := by
    unfold registerTexts
    split
    · decide
    · exact rows_legible _ legible.clients
  have warning : "" ∉ d.warningTexts := by
    cases shown : d.warning with
    | none => simp [warningTexts, shown]
    | some warning =>
      obtain ⟨message, title⟩ := legible.warning warning shown
      simp [warningTexts, shown, message.symm, title.symm]
  rw [texts, d.tableTexts_eq complete]
  apply List.filter_eq_self.mpr
  intro text member
  rw [decide_eq_true_eq]
  rintro rfl
  simp only [List.mem_append] at member
  rcases member with (((inForm | inStatus) | inHeading) | inTable) | inWarning
  · exact form inForm
  · exact status inStatus
  · exact heading inHeading
  · exact table inTable
  · exact warning inWarning

theorem length_warningTexts (d : Desk) :
    d.warningTexts.length = if d.warning.isSome then 4 else 0 := by
  cases shown : d.warning <;> simp [warningTexts, shown]

end Desk

namespace Window

open Desk

theorem legible_run (today : Date) (steps : List WindowStep) :
    Legible ((opened today).run steps).desk :=
  legible_of_recorded _ _
    (run_recorded truthful_recorded (opened today) steps (opened_truthful today))
    (run_recorded (reservations_recorded []) (opened today) steps rfl)

/-- Whatever was done in the window, every gesture ends with all texts of the form, the
status line, the heading, the table and the warning on the screen, and none of them is
empty. The table's place holds the rows of all reservations in order, or a note if there
are none. A list of kinds that hangs open comes last. -/
theorem painted_table_is_register (today : Date) (steps : List WindowStep) (g : Gesture) :
    let after := (((opened today).run steps).perform g).window
    let stored := after.desk.register.reservations
    let count := if stored.length = 0 then 1 else 3 * stored.length
    let tablePlace := (after.texts.drop 11).take count
    let labels := if after.kindListOpen then EventKind.all.map EventKind.label else []
    after.texts.length = 11 + count + (if after.desk.warning.isSome then 4 else 0) +
      (if after.kindListOpen then 4 else 0) ∧
    after.texts = after.desk.formTexts ++ after.desk.statusTexts ++ headingTexts ++ tablePlace ++
      after.desk.warningTexts ++ labels ∧
    tablePlace = (if stored.length = 0 then ["Aucun contenu dans la table"]
      else stored.flatMap Reservation.row) ∧
    (tablePlace = ["Aucun contenu dans la table"] ↔ stored.length = 0) := by
  intro after stored count tablePlace labels
  have inStep : InStep ((opened today).run steps).desk :=
    run_recorded inStep_stable (opened today) steps (opened_inStep today)
  have legible : Legible after.desk := by
    have reached := legible_run today (steps ++ [.drawn g])
    rwa [run, List.foldl_append] at reached
  have complete : after.desk.table.rows = after.desk.register.rows := rows_perform _ g inStep
  have painted : after.texts = after.desk.formTexts ++ after.desk.statusTexts ++ headingTexts ++
      registerTexts stored ++ after.desk.warningTexts ++ labels := by
    rw [texts, after.desk.texts_eq legible complete]
  have size : (registerTexts stored).length = count := length_registerTexts stored
  have place : tablePlace = registerTexts stored := by
    have front : (after.desk.formTexts ++ after.desk.statusTexts ++ headingTexts).length = 11 := rfl
    show (after.texts.drop 11).take count = registerTexts stored
    rw [painted, List.append_assoc _ _ labels, List.append_assoc _ (registerTexts stored),
      List.drop_left' front, List.take_left' size]
  have listed : labels.length = if after.kindListOpen then 4 else 0 := by
    show (if after.kindListOpen then EventKind.all.map EventKind.label else []).length = _
    cases after.kindListOpen <;> rfl
  refine ⟨?_, ?_, ?_, ?_⟩
  · rw [painted]
    simp only [List.length_append, size, length_warningTexts, listed]
    rfl
  · rw [place]
    exact painted
  · rw [place, registerTexts]
    simp only [List.length_eq_zero_iff]
  · rw [place]
    exact registerTexts_eq_note_iff stored

/-- A list of kinds that was left open is painted too. -/
theorem open_list_is_painted :
    let today : Date := ⟨2025, 6, 14, by decide⟩
    let painted := ((opened today).run [.drawn (.chooseKind "x")]).perform .frame
    painted.shown = true ∧ painted.window.desk.register.reservations = [] ∧
      painted.window.desk.warning = none ∧ painted.window.texts.length ≠ 11 + 1 + 0 := by
  decide

end Window

end BookingDesk
