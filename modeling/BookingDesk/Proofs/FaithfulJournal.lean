import BookingDesk.Proofs.TableFollows

/-!
The journal is a faithful account of the desk. It has one block of lines for each
submission that no warning stood in the way of, in the order in which they were handled,
and not a line more. Two columns of the register can be read back from it.
-/

namespace BookingDesk

open Calendar

structure Line where
  message : String
  fields : List (String × Json)

def LogEntry.line (e : LogEntry) : Line :=
  ⟨e.message, e.fields⟩

def Line.cells? : Line → Option (List String)
  | ⟨"reservation submitted", [_, (_, .string date), (_, .string label)]⟩ => some [date, label]
  | _ => none

namespace Occasion

/-- The block about a booking that `place` others came before. -/
def bookingLines (place : Nat) (b : Reservation) : List Line :=
  let index := ("index", Json.integer place)
  let total := ("total", Json.integer (place + 1 : Nat))
  [⟨"reservation appended", [index, total, ("observers", .integer 1)]⟩,
    ⟨"reservation submitted", [index, ("date", .string (b.row.getD 1 "")),
      ("event_type", .string (b.row.getD 2 ""))]⟩,
    ⟨"reservation added", [index, total]⟩]

def rejectionLine (d : Draft) : Line :=
  let reason := if Text.allBlank d.name then "client name is missing" else "event date is missing"
  ⟨"reservation rejected", [("reason", .string reason)]⟩

def lines (place : Nat) (o : Occasion) : List Line :=
  if o.decides then
    match o.reservation? with
    | some b => bookingLines place b
    | none => [rejectionLine o.desk.draft]
  else []

theorem lines_of_undecided (place : Nat) (o : Occasion) (undecided : o.decides = false) :
    o.lines place = [] := by
  simp [lines, undecided]

def allLines (place : Nat) : List Occasion → List Line
  | [] => []
  | o :: rest => o.lines place ++ allLines (place + o.reservation?.toList.length) rest

theorem length_filterMap_cons (o : Occasion) (rest : List Occasion) :
    ((o :: rest).filterMap reservation?).length =
      o.reservation?.toList.length + (rest.filterMap reservation?).length := by
  cases added : o.reservation? with
  | none => simp [added]
  | some b =>
    simp only [List.filterMap_cons, added, List.length_cons, Option.toList_some, List.length_nil]
    omega

theorem allLines_append (place : Nat) (first second : List Occasion) :
    allLines place (first ++ second) =
      allLines place first ++ allLines (place + (first.filterMap reservation?).length) second := by
  induction first generalizing place with
  | nil => rfl
  | cons o rest ih =>
    rw [List.cons_append, allLines, allLines, ih, List.append_assoc, length_filterMap_cons,
      Nat.add_assoc]

theorem cells_lines (place : Nat) (o : Occasion) :
    (o.lines place).filterMap Line.cells? =
      o.reservation?.toList.map fun b => [b.date.isoText, b.kind.label] := by
  cases added : o.reservation? with
  | some b =>
    rw [lines, if_pos (o.decides_of_reservation? b added), added]
    rfl
  | none =>
    by_cases decided : o.decides = true
    · rw [lines, if_pos decided, added]
      rfl
    · rw [lines, if_neg decided]
      rfl

theorem cells_allLines (place : Nat) (occasions : List Occasion) :
    (allLines place occasions).filterMap Line.cells? =
      (occasions.filterMap reservation?).map fun b => [b.date.isoText, b.kind.label] := by
  induction occasions generalizing place with
  | nil => rfl
  | cons o rest ih =>
    rw [allLines, List.filterMap_append, cells_lines, ih]
    cases added : o.reservation? <;> simp [added]

end Occasion

namespace Desk

theorem appendEntry_of_inStep (d : Desk) (inStep : InStep d) :
    d.register.appendEntry = .appended d.register.size (d.register.size + 1) 1 := by
  obtain ⟨⟨shown, follows⟩, _⟩ := inStep
  simp [Register.appendEntry, Register.liveObservers, follows.observing, follows.listening]

theorem lines_handle (d : Desk) (event : DeskEvent) (inStep : InStep d) :
    (d.handle event).journal.map LogEntry.line =
      d.journal.map LogEntry.line ++ Occasion.lines d.register.size ⟨d, .handling event⟩ := by
  rcases d.handle_cases event with ⟨date, rfl, _, done⟩ | ⟨rfl, _, done⟩ |
    ⟨rfl, shown, _, done⟩ | ⟨date, rfl, free, complete, _, done⟩ |
    ⟨missing, rfl, free, lacks, _, done⟩
  · rw [done, Occasion.lines_of_undecided _ _ (Occasion.decides_pick d date), List.append_nil]
    rfl
  · rw [done, Occasion.lines_of_undecided _ _ (Occasion.decides_dismiss d), List.append_nil]
  · rw [done, Occasion.lines_of_undecided _ _ (Occasion.decides_of_shown shown), List.append_nil]
  · have added := Occasion.reservation?_of_complete ⟨d, .handling .submit⟩ date
      (by simp [free]) complete
    rw [done, booked, List.map_append, d.appendEntry_of_inStep inStep]
    simp only [Occasion.lines, Occasion.decides_submit, free, Option.isNone_none, if_true, added]
    rfl
  · have silent := Occasion.reservation?_of_lacks ⟨d, .handling .submit⟩ missing lacks
    rw [done, refused, List.map_append]
    simp only [Occasion.lines, Occasion.decides_submit, free, Option.isNone_none, if_true, silent]
    cases missing with
    | name =>
      have blank : Text.allBlank d.draft.name = true := lacks
      simp [Occasion.rejectionLine, blank, LogEntry.line, LogEntry.message, LogEntry.fields,
        Missing.message]
    | date =>
      simp [Occasion.rejectionLine, lacks.1, LogEntry.line, LogEntry.message, LogEntry.fields,
        Missing.message]

theorem journal_refreshTable (d : Desk) (inStep : InStep d) :
    d.refreshTable.journal = d.journal := by
  rw [d.refreshTable_of_inStep inStep]

/-- The journal tells of the events handled so far and of nothing else. -/
structure Told (past : List Occasion) (d : Desk) : Prop where
  inStep : InStep d
  stored : d.register.reservations = past.filterMap Occasion.reservation?
  lines : d.journal.map LogEntry.line = Occasion.allLines 0 past

theorem opened_told (today : Date) : Told [] (opened today) :=
  ⟨opened_inStep today, rfl, rfl⟩

theorem told_recorded : Recorded Told where
  name := by
    intro past d name told
    refine ⟨told.inStep, (reservations_recorded []).name past d name told.stored, ?_⟩
    rw [told.lines, Occasion.allLines_append, Occasion.allLines, Occasion.allLines,
      Occasion.lines_of_undecided _ _ (Occasion.decides_naming d name), List.append_nil,
      List.append_nil]
  kind := fun _ _ _ told => ⟨told.inStep, told.stored, told.lines⟩
  pending := fun _ _ _ told => ⟨told.inStep, told.stored, told.lines⟩
  handle := by
    intro past d event told
    refine ⟨inStep_stable.handle [] d event told.inStep,
      (reservations_recorded []).handle past d event told.stored, ?_⟩
    rw [d.lines_handle event told.inStep, told.lines, Occasion.allLines_append, ← told.stored,
      Nat.zero_add, Occasion.allLines, Occasion.allLines, List.append_nil]
    rfl
  refresh := by
    intro past d told
    refine ⟨inStep_stable.refresh [] d told.inStep,
      (reservations_recorded []).refresh past d told.stored, ?_⟩
    rw [d.journal_refreshTable told.inStep, told.lines]

/-- Whatever was done in a window, its journal consists of the blocks about the submissions
that were decided upon, in order. The reservations are those that these have added, and
the journal gives their dates and labels back as they stand in the table. -/
theorem journal_is_faithful (today : Date) (steps : List WindowStep) :
    let w := (Window.opened today).run steps
    let handled := (Window.opened today).occasions steps
    w.desk.journal.map LogEntry.line = Occasion.allLines 0 handled ∧
    w.desk.register.reservations = handled.filterMap Occasion.reservation? ∧
    (w.desk.journal.map LogEntry.line).filterMap Line.cells? =
      w.desk.register.reservations.map fun b => b.row.drop 1 := by
  intro w handled
  have told : Told handled w.desk :=
    Window.run_recorded told_recorded (Window.opened today) steps (opened_told today)
  refine ⟨told.lines, told.stored, ?_⟩
  rw [told.lines, Occasion.cells_allLines, ← told.stored]
  rfl

end Desk

end BookingDesk
