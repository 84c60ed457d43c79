import BookingDesk.Proofs.SettledWindow
import BookingDesk.Proofs.Trimming

/-!
There is always a way to a booking. Whatever was done in a window, a user who puts away
the warning, types some text, takes today and clicks the add button has a reservation.
-/

namespace BookingDesk

open Calendar

namespace Text

theorem allBlank_append (s t : String) : allBlank (s ++ t) = (allBlank s && allBlank t) := by
  simp [allBlank, List.all_append]

end Text

theorem Desk.handle_of_complete (d : Desk) (date : Date) (free : d.warning = none)
    (complete : d.draft.Complete date) : d.handle .submit = d.booked date := by
  rw [← d.submit_of_complete date complete, Desk.handle, free]
  rfl

namespace Window

open Desk Text

theorem typed_of_legible (text : String) (legible : allBlank text = false) : typed text = text := by
  have other : ¬(text = "\n" ∨ text = "\r") := by
    rintro (rfl | rfl)
    · exact absurd legible (by decide)
    · exact absurd legible (by decide)
  rw [typed, if_neg other]

theorem today_act (w : Window) (g : Gesture) : (w.act g).window.today = w.today := by
  rcases w.act_cases g with same | ⟨_, _, _, acted, _⟩
  · rw [same]
  · rw [acted]

theorem today_run (w : Window) (steps : List WindowStep) : (w.run steps).today = w.today :=
  run_invariant (fun _ _ same => same) (fun _ same => same)
    (fun v g same => (v.today_act g).trans same) w steps rfl

/-- A form without a warning in front of it is filled in and added. -/
theorem Settled.booking {w : Window} (settled : w.Settled) (free : w.desk.warning = none)
    (text : String) (legible : allBlank text = false) :
    let after := w.run [.drawn (.typeName text), .drawn .clickToday, .drawn .clickAdd]
    let b : Reservation := ⟨w.desk.draft.name ++ text, w.today, w.desk.draft.kind⟩
    after.desk.warning = none ∧ after.desk.draft = w.desk.draft.cleared ∧
    after.desk.register.reservations = w.desk.register.reservations ++ [b] ∧
    after.desk.table.rows = w.desk.register.rows ++ [b.row] ∧ b.row <:+ after.texts := by
  intro after b
  let named : Window :=
    ⟨w.desk.step (.setName (w.desk.draft.name ++ text)), w.today, true, false⟩
  have first : (w.perform (.typeName text)).window = named := by
    rw [settled.typeName free text, typed_of_legible text legible]
  have namedSettled : named.Settled :=
    first ▸ w.settled_perform (.typeName text) settled.inStep rfl
  let dated : Window := ⟨named.desk.picked w.today, w.today, false, false⟩
  have second : (named.perform .clickToday).window = dated := by
    rw [namedSettled.clickToday free]
  have datedSettled : dated.Settled :=
    second ▸ named.settled_perform .clickToday namedSettled.inStep rfl
  have complete : dated.desk.draft.Complete w.today := by
    refine ⟨?_, rfl⟩
    change allBlank (w.desk.draft.name ++ text) = false
    rw [allBlank_append, legible, Bool.and_false]
  have last : after = (dated.perform .clickAdd).window := by
    change (((w.perform (.typeName text)).window.perform .clickToday).window.perform
      .clickAdd).window = _
    rw [first, second]
  rw [dated.clickAdd_eq datedSettled.idle free] at last
  obtain ⟨stored, rows, unwarned⟩ :=
    dated.desk.submit_refreshed w.today datedSettled.inStep free complete
  have cleared : after.desk.draft = w.desk.draft.cleared := by
    rw [last, dated.desk.refreshTable_of_still datedSettled.tick,
      dated.desk.handle_of_complete w.today free complete]
    rfl
  have painted : after.texts = after.desk.texts := by
    rw [last]
    exact List.append_nil _
  have desk : after.desk = (dated.desk.refreshTable.handle .submit).refreshTable := by
    rw [last]
  rw [← desk] at stored rows unwarned
  refine ⟨unwarned, cleared, stored, rows, ?_⟩
  rw [painted]
  exact row_suffix_texts after.desk w.desk.register.rows b complete.name_ne_empty rows unwarned

theorem Settled.freed {w : Window} (settled : w.Settled) (rest : List WindowStep) :
    let closing : List Gesture := if w.desk.warning.isSome then [.clickOk] else []
    ∃ freed : Window, freed.Settled ∧ freed.desk = { w.desk with warning := none } ∧
      freed.today = w.today ∧
      (w.desk.warning.isSome = true → (w.perform .clickOk).shown = true) ∧
      w.run (closing.map .drawn ++ rest) = freed.run rest := by
  intro closing
  cases warned : w.desk.warning.isSome with
  | true =>
    have clicked := (settled.locked warned).clickOk
    have shown : (w.settle.act .clickOk).shown = true := by
      simp [settled.still, act, (settled.locked warned).disabled]
    refine ⟨(w.perform .clickOk).window, w.settled_perform .clickOk settled.inStep shown, ?_, ?_,
      ?_, ?_⟩
    · rw [clicked]
    · rw [clicked]
    · rw [clicked]
      exact fun _ => rfl
    · simp only [closing, warned, if_true]
      rfl
  | false =>
    have free : w.desk.warning = none := by simpa using warned
    refine ⟨w, settled, ?_, rfl, by simp, ?_⟩
    · rw [← free]
    · simp [closing, free]

/-- Whatever was done in the window and whatever waits, after a frame the warning can be
put away, if there is one, and then some text, today and the add button make one more
reservation, under the name as it stood with the text behind it. It is painted in the last
row, and the form is left without a warning, a name or a date and with its kind. -/
theorem always_a_way_to_book (today : Date) (steps : List WindowStep) (text : String)
    (legible : ∃ c ∈ text.toList, isBlank c = false) :
    let framed := (((opened today).run steps).perform .frame).window
    let closing : List Gesture := if framed.desk.warning.isSome then [.clickOk] else []
    let filling : List Gesture := [.typeName text, .clickToday, .clickAdd]
    let after := framed.run ((closing ++ filling).map .drawn)
    let b : Reservation := ⟨framed.desk.draft.name ++ text, today, framed.desk.draft.kind⟩
    (framed.desk.warning.isSome = true → (framed.perform .clickOk).shown = true) ∧
    after.desk.warning = none ∧ after.desk.draft.name = "" ∧ after.desk.draft.date = none ∧
    after.desk.draft.kind = framed.desk.draft.kind ∧
    after.desk.register.reservations = framed.desk.register.reservations ++ [b] ∧
    after.desk.table.rows = framed.desk.register.reservations.map Reservation.row ++
      [[b.client, b.date.isoText, b.kind.label]] ∧
    [b.client, b.date.isoText, b.kind.label] <:+ after.texts := by
  intro framed closing filling after b
  have settled : framed.Settled := settled_perform _ .frame (inStep_run today steps) rfl
  have today_framed : framed.today = today := today_run (opened today) steps
  obtain ⟨freed, freedSettled, freedDesk, freedToday, found, reached⟩ :=
    settled.freed (filling.map .drawn)
  have free : freed.desk.warning = none := by rw [freedDesk]
  obtain ⟨unwarned, cleared, stored, rows, painted⟩ :=
    freedSettled.booking free text ((allBlank_eq_false_iff text).mpr legible)
  rw [freedDesk, freedToday, today_framed] at stored rows painted
  have whole : after = freed.run (filling.map .drawn) := by
    rw [← reached, ← List.map_append]
  have form : after.desk.draft = framed.desk.draft.cleared := by
    rw [whole]
    exact cleared.trans (by rw [freedDesk])
  rw [form, whole]
  exact ⟨found, unwarned, rfl, rfl, rfl, stored, rows, painted⟩

/-- Three events wait: a submission that raises a warning, one that it blocks, and a pick.
The list of kinds hangs open, and what is typed has blanks around it. -/
theorem way_to_book_past_warning :
    let today : Date := ⟨2025, 6, 14, by decide⟩
    let day : Date := ⟨2024, 2, 29, by decide⟩
    let steps : List WindowStep := [.drawn (.typeName "Bob"), .drawn (.chooseKind "x"),
      .undrawn (.setKind .meeting), .undrawn (.raise .submit), .undrawn (.raise .submit),
      .undrawn (.raise (.pick day))]
    let framed := (((opened today).run steps).perform .frame).window
    let after := framed.run ([.clickOk, .typeName " & Alice ", .clickToday, .clickAdd].map .drawn)
    (∃ c ∈ " & Alice ".toList, isBlank c = false) ∧ framed.desk.warning.isSome = true ∧
      framed.desk.draft = ⟨"Bob", some day, .meeting⟩ ∧ framed.desk.register.reservations = [] ∧
      after.desk.register.reservations = [⟨"Bob" ++ " & Alice ", today, .meeting⟩] ∧
      after.desk.draft.date = none := by
  intro today day steps
  have legible : ∃ c ∈ " & Alice ".toList, isBlank c = false := ⟨'&', by decide, by decide⟩
  have warned : (((opened today).run steps).perform .frame).window.desk.warning.isSome = true := by
    decide
  have form : (((opened today).run steps).perform .frame).window.desk.draft =
      ⟨"Bob", some day, .meeting⟩ := by decide
  have unbooked : (((opened today).run steps).perform .frame).window.desk.register.reservations =
      [] := by decide
  obtain ⟨_, _, _, undated, _, stored, _⟩ := always_a_way_to_book today steps " & Alice " legible
  rw [unbooked, form, if_pos warned] at stored
  rw [if_pos warned] at undated
  exact ⟨legible, warned, form, unbooked, stored, undated⟩

end Window

end BookingDesk
