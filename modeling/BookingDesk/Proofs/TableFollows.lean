import BookingDesk.Proofs.DeskRun
import BookingDesk.Proofs.Inbox

/-!
The table of a desk may be late but is never wrong. At any time it shows the first
reservations of the register, and the announcements of all the others are on their way
to it in order. It is therefore never made anew: each announcement adds the next row.
-/

namespace BookingDesk

open Calendar

namespace Table

/-- The table shows the first `shown` reservations of a register that the desk alone
observes, and the announcements of the others are on their way. -/
structure Follows (t : Table) (r : Register) (shown : Nat) : Prop where
  observing : r.observers = [Desk.feed]
  listening : r.isListening Desk.feed = true
  within : shown ≤ r.size
  rows : t.rows = (r.reservations.take shown).map Reservation.row
  underWay : r.queue Desk.feed = Announcement.between shown r.size

theorem apply_next (t : Table) (reservations : List Reservation) (shown : Nat)
    (rows : t.rows = (reservations.take shown).map Reservation.row)
    (more : shown < reservations.length) :
    t.apply reservations ⟨shown, shown + 1⟩ =
      (⟨(reservations.take (shown + 1)).map Reservation.row⟩, []) := by
  have count : t.rows.length = shown := by
    rw [rows, List.length_map, List.length_take]
    omega
  have next : t.nextRow? reservations ⟨shown, shown + 1⟩ = some reservations[shown] := by
    simp [nextRow?, count, more]
  simp only [apply, next, rows]
  rw [List.take_succ_eq_append_getElem more, List.map_append]
  rfl

/-- All announcements of what is not shown yet complete the table, and nothing is made
anew. -/
theorem applyAll_between (t : Table) (reservations : List Reservation) (shown : Nat)
    (rows : t.rows = (reservations.take shown).map Reservation.row)
    (within : shown ≤ reservations.length) :
    t.applyAll reservations (Announcement.between shown reservations.length) =
      (ofReservations reservations, []) := by
  -- By recursion on what is missing: each announcement adds one row.
  by_cases more : shown < reservations.length
  · rw [Announcement.between_eq_cons shown reservations.length more]
    have rest := applyAll_between ⟨(reservations.take (shown + 1)).map Reservation.row⟩
      reservations (shown + 1) rfl (by omega)
    simp only [applyAll, apply_next t reservations shown rows more, rest, List.nil_append]
  · have whole : shown = reservations.length := by omega
    subst whole
    rw [Announcement.between_self, applyAll]
    simp only [List.take_length] at rows
    simp only [ofReservations, ← rows]
termination_by reservations.length - shown

namespace Follows

variable {t : Table} {r : Register} {shown : Nat}

theorem append (follows : t.Follows r shown) (b : Reservation) :
    t.Follows (r.append b) shown where
  observing := by
    simp [Register.append, Register.liveObservers, follows.observing, follows.listening]
  listening := by rw [r.isListening_append, follows.listening]
  within := by
    have within := follows.within
    rw [r.size_append]
    omega
  rows := by
    have kept : (r.append b).reservations.take shown = r.reservations.take shown :=
      List.take_append_of_le_length follows.within
    rw [follows.rows, kept]
  underWay := by
    have observing : Desk.feed ∈ r.observers := by simp [follows.observing]
    rw [r.queue_append_of_mem b Desk.feed observing follows.listening, follows.underWay,
      r.size_append, ← Announcement.between_append shown r.size (r.size + 1) follows.within
        (Nat.le_succ r.size), Announcement.between_succ]
    rfl

theorem applyAll (follows : t.Follows r shown) :
    t.applyAll r.reservations (r.queue Desk.feed) = (ofReservations r.reservations, []) := by
  rw [follows.underWay]
  exact applyAll_between t r.reservations shown follows.rows follows.within

theorem drain (follows : t.Follows r shown) :
    (ofReservations r.reservations).Follows (r.drain Desk.feed) r.size := by
  obtain ⟨same, observers, _⟩ := r.drain_frame Desk.feed
  have size : (r.drain Desk.feed).size = r.size := by simp only [Register.size, same]
  refine ⟨?_, ?_, ?_, ?_, ?_⟩
  · rw [observers, follows.observing]
  · rw [r.isListening_drain, follows.listening]
  · exact Nat.le_of_eq size.symm
  · simp [ofReservations, same, Register.size]
  · rw [r.queue_drain, if_pos rfl, size, Announcement.between_self]

end Follows

end Table

namespace Desk

/-- The table follows the register, and it has never been made anew. -/
def InStep (d : Desk) : Prop :=
  (∃ shown, d.table.Follows d.register shown) ∧ ∀ total, LogEntry.rebuilt total ∉ d.journal

theorem opened_inStep (today : Date) : InStep (opened today) := by
  refine ⟨⟨0, rfl, rfl, Nat.le_refl 0, rfl, rfl⟩, ?_⟩
  intro total
  simp [opened]

/-- Taking in the announcements completes the table without a word in the journal. -/
theorem refreshTable_of_inStep (d : Desk) (inStep : InStep d) :
    d.refreshTable =
      { d with
        register := d.register.drain feed
        table := .ofReservations d.register.reservations } := by
  obtain ⟨⟨shown, follows⟩, _⟩ := inStep
  simp [refreshTable, undelivered, follows.applyAll]

theorem inStep_stable : Stable InStep where
  name := fun _ _ _ kept => kept
  kind := fun _ _ _ kept => kept
  pending := fun _ _ _ kept => kept
  handle := by
    intro _ d event kept
    obtain ⟨⟨shown, follows⟩, unmade⟩ := kept
    rcases d.handle_cases event with ⟨date, _, _, done⟩ | ⟨_, _, done⟩ | ⟨_, _, _, done⟩ |
      ⟨date, _, _, _, _, done⟩ | ⟨missing, _, _, _, _, done⟩
    · rw [done]
      exact ⟨⟨shown, follows⟩, unmade⟩
    · rw [done]
      exact ⟨⟨shown, follows⟩, unmade⟩
    · rw [done]
      exact ⟨⟨shown, follows⟩, unmade⟩
    · rw [done]
      refine ⟨⟨shown, follows.append _⟩, ?_⟩
      intro total
      simpa [booked, Register.appendEntry] using unmade total
    · rw [done]
      refine ⟨⟨shown, follows⟩, ?_⟩
      intro total
      simpa [refused] using unmade total
  refresh := by
    intro _ d kept
    rw [d.refreshTable_of_inStep kept]
    obtain ⟨⟨shown, follows⟩, unmade⟩ := kept
    exact ⟨⟨d.register.size, follows.drain⟩, unmade⟩

theorem run_inStep (today : Date) (steps : List DeskStep) : InStep ((opened today).run steps) :=
  inStep_stable.run [] (opened today) steps (opened_inStep today)

theorem rows_refreshTable (d : Desk) (inStep : InStep d) :
    d.refreshTable.table.rows = d.refreshTable.register.rows := by
  rw [Register.rows, reservations_refreshTable, d.refreshTable_of_inStep inStep]
  rfl

theorem rows_perform (w : Window) (g : Gesture) (inStep : InStep w.desk) :
    (w.perform g).window.desk.table.rows = (w.perform g).window.desk.register.rows := by
  have settled : InStep w.settle.desk := inStep_stable.step [] w.desk .tick inStep
  have complete : w.settle.desk.table.rows = w.settle.desk.register.rows :=
    rows_refreshTable _ (inStep_stable.handleEvents [] _ inStep)
  simp only [Window.perform]
  split
  · obtain ⟨steps, reached⟩ := w.settle.act_reaches g
    have acted := inStep_stable.run [] w.settle.desk steps settled
    rw [reached] at acted
    exact rows_refreshTable _ (inStep_stable.handleEvents [] _ acted)
  · rename_i absent
    rw [w.settle.desk_act_of_not_shown g (by simpa using absent)]
    exact complete

/-- Whatever was done at a desk, the table shows the first reservations and the
announcements of the others are under way in order; so the table is complete each time
it is refreshed, in every frame that is drawn, and it is never made anew. -/
theorem table_follows_register (today : Date) :
    (∀ steps : List DeskStep,
      let d := (opened today).run steps
      (∃ shown ≤ d.register.size,
        d.table.rows = (d.register.reservations.take shown).map Reservation.row ∧
        d.undelivered = (List.range' shown (d.register.size - shown)).map fun index =>
          ⟨index, index + 1⟩) ∧
      d.refreshTable.table.rows = d.refreshTable.register.reservations.map Reservation.row ∧
      d.tick.table.rows = d.tick.register.reservations.map Reservation.row ∧
      d.refreshTable.journal = d.journal ∧
      ∀ total, LogEntry.rebuilt total ∉ d.journal) ∧
    ∀ (steps : List WindowStep) (g : Gesture),
      let w := (Window.opened today).run steps
      let after := (w.perform g).window
      w.settle.desk.table.rows = w.settle.desk.register.reservations.map Reservation.row ∧
      after.desk.table.rows = after.desk.register.reservations.map Reservation.row ∧
      ∀ total, LogEntry.rebuilt total ∉ after.desk.journal := by
  constructor
  · intro steps
    have inStep := run_inStep today steps
    have handled := inStep_stable.handleEvents [] _ inStep
    obtain ⟨⟨shown, follows⟩, unmade⟩ := inStep
    refine ⟨⟨shown, follows.within, follows.rows, follows.underWay⟩, ?_, ?_, ?_, unmade⟩
    · exact rows_refreshTable _ (run_inStep today steps)
    · exact rows_refreshTable _ handled
    · rw [refreshTable_of_inStep _ (run_inStep today steps)]
  · intro steps g w after
    have inStep : InStep w.desk :=
      Window.run_recorded inStep_stable (Window.opened today) steps (opened_inStep today)
    obtain ⟨more, reached⟩ := w.perform_reaches g
    have later : InStep after.desk := reached ▸ inStep_stable.run [] w.desk more inStep
    refine ⟨?_, rows_perform w g inStep, later.2⟩
    exact rows_refreshTable _ (inStep_stable.handleEvents [] _ inStep)

-- The second reservation is stored, and its announcement is still under way.
example :
    let today : Date := ⟨2025, 6, 14, by decide⟩
    let booking : String → List DeskStep := fun name =>
      [.setName name, .raise (.pick today), .raise .submit]
    let d := (opened today).run (booking "Alice" ++ .tick :: booking "Bob" ++ [.handleEvents])
    d.register.size = 2 ∧ d.table.rows = [["Alice", "2025-06-14", "Mariage"]] ∧
      d.undelivered = [⟨1, 2⟩] ∧
      d.refreshTable.table.rows =
        [["Alice", "2025-06-14", "Mariage"], ["Bob", "2025-06-14", "Mariage"]] := by
  decide +kernel

end Desk

end BookingDesk
