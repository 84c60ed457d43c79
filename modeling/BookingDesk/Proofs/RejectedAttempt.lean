import BookingDesk.Proofs.DeskRecord

/-!
A rejected attempt leaves no trace. The status line and the journal are written but never
read, so that two desks which differ in these alone go on alike; and the status lines are
the same again as soon as the next submission is decided upon.
-/

namespace BookingDesk

open Calendar

def Happening.isVerdict : Happening → Bool
  | .booked _ | .refused _ => true
  | _ => false

theorem Draft.lacks_of_incomplete (d : Draft)
    (incomplete : Text.allBlank d.name = true ∨ d.date = none) : ∃ missing, d.Lacks missing := by
  rcases d.complete_or_lacks with ⟨date, named, dated⟩ | lacks
  · simp [named, dated] at incomplete
  · exact lacks

theorem Occasion.isVerdict_happening (o : Occasion) : o.happening.isVerdict = o.decides := by
  obtain ⟨d, name | event⟩ := o
  · simp [happening, Happening.isVerdict]
  · change (d.happening event).isVerdict = _
    rcases d.handle_cases event with ⟨date, rfl, what, _⟩ | ⟨rfl, what, _⟩ |
      ⟨rfl, shown, what, _⟩ | ⟨date, rfl, free, _, what, _⟩ | ⟨missing, rfl, free, _, what, _⟩
    · simp [what, Happening.isVerdict]
    · simp [what, Happening.isVerdict]
    · simp [what, Happening.isVerdict, decides_of_shown shown]
    · simp [what, Happening.isVerdict, free]
    · simp [what, Happening.isVerdict, free]

namespace Desk

def recast (d : Desk) (status : String) (journal : List LogEntry) : Desk :=
  { d with status := status, journal := journal }

/-- A verdict is the same whatever the status line and the journal are, and overwrites the
status line. -/
theorem handle_recast_of_verdict (d : Desk) (event : DeskEvent) (status : String)
    (journal : List LogEntry) (decided : Occasion.decides ⟨d, .handling event⟩ = true) :
    ∃ log, (d.handle event).journal = d.journal ++ log ∧
      (d.recast status journal).handle event =
        (d.handle event).recast (d.handle event).status (journal ++ log) := by
  obtain ⟨rfl, free⟩ : event = .submit ∧ d.warning = none := by
    simpa [Occasion.decides] using decided
  refine ⟨(d.draft.attempt d.register).log, ?_, ?_⟩
  · simp [handle, free, submit]
  · simp [handle, free, recast, submit]

theorem handle_recast_of_no_verdict (d : Desk) (event : DeskEvent) (status : String)
    (journal : List LogEntry) (undecided : Occasion.decides ⟨d, .handling event⟩ = false) :
    (d.handle event).journal = d.journal ∧ (d.handle event).status = d.status ∧
      (d.recast status journal).handle event = (d.handle event).recast status journal := by
  cases event with
  | pick date => exact ⟨rfl, rfl, rfl⟩
  | dismiss => exact ⟨rfl, rfl, rfl⟩
  | submit =>
    have shown : d.warning.isSome = true := by simpa using undecided
    have ignored : d.handle .submit = d := if_pos shown
    have alike : (d.recast status journal).handle .submit = d.recast status journal := if_pos shown
    rw [ignored, alike]
    exact ⟨rfl, rfl, rfl⟩

/-- Two desks that differ in the status line and the journal alone, with the same entries
after `past` in the one as after `otherPast` in the other. If `agreed`, the status lines do
not differ either. -/
def Twin (past otherPast : List LogEntry) (agreed : Bool) (d e : Desk) : Prop :=
  ∃ status log, d.journal = past ++ log ∧ e = d.recast status (otherPast ++ log) ∧
    (agreed = true → status = d.status)

namespace Twin

variable {past otherPast : List LogEntry} {agreed : Bool} {d e : Desk}

theorem handle (twin : Twin past otherPast agreed d e) (event : DeskEvent) :
    Twin past otherPast (agreed || Occasion.decides ⟨d, .handling event⟩) (d.handle event)
      (e.handle event) := by
  obtain ⟨status, log, told, rfl, known⟩ := twin
  cases decided : Occasion.decides ⟨d, .handling event⟩ with
  | true =>
    obtain ⟨more, logged, handled⟩ :=
      d.handle_recast_of_verdict event status (otherPast ++ log) decided
    refine ⟨(d.handle event).status, log ++ more, ?_, ?_, fun _ => rfl⟩
    · rw [logged, told, List.append_assoc]
    · rw [handled, List.append_assoc]
  | false =>
    obtain ⟨logged, kept, handled⟩ :=
      d.handle_recast_of_no_verdict event status (otherPast ++ log) decided
    refine ⟨status, log, by rw [logged, told], handled, ?_⟩
    rw [Bool.or_false, kept]
    exact known

theorem handleAll (twin : Twin past otherPast agreed d e) (events : List DeskEvent) :
    Twin past otherPast (agreed || (d.handlings events).any Occasion.decides)
      (events.foldl Desk.handle d) (events.foldl Desk.handle e) := by
  induction events generalizing d e agreed with
  | nil => simpa [handlings] using twin
  | cons event rest ih =>
    have later := ih (twin.handle event)
    rwa [Bool.or_assoc, ← List.any_cons] at later

theorem handleEvents (twin : Twin past otherPast agreed d e) :
    Twin past otherPast (agreed || (d.stepRecord .handleEvents).any Occasion.decides)
      d.handleEvents e.handleEvents := by
  obtain ⟨status, log, told, rfl, known⟩ := twin
  have emptied : Twin past otherPast agreed { d with pending := [] }
      { d.recast status (otherPast ++ log) with pending := [] } := ⟨status, log, told, rfl, known⟩
  exact emptied.handleAll d.pending

theorem refreshTable (twin : Twin past otherPast agreed d e) :
    Twin past otherPast agreed d.refreshTable e.refreshTable := by
  obtain ⟨status, log, told, rfl, known⟩ := twin
  refine ⟨status, log ++ (d.table.applyAll d.register.reservations d.undelivered).2, ?_, ?_,
    known⟩
  · simp [Desk.refreshTable, told]
  · simp [Desk.refreshTable, recast, undelivered]

theorem step (twin : Twin past otherPast agreed d e) (s : DeskStep) :
    Twin past otherPast (agreed || (d.stepRecord s).any Occasion.decides) (d.step s)
      (e.step s) := by
  cases s with
  | handleEvents => exact twin.handleEvents
  | tick => exact twin.handleEvents.refreshTable
  | refreshTable =>
    rw [stepRecord, List.any_nil, Bool.or_false]
    exact twin.refreshTable
  | setName | setKind | raise =>
    -- Nothing is decided, and both desks get the same.
    obtain ⟨status, log, told, rfl, known⟩ := twin
    refine ⟨status, log, told, rfl, ?_⟩
    intro settled
    exact known (by simpa [stepRecord] using settled)

theorem run (twin : Twin past otherPast agreed d e) (steps : List DeskStep) :
    Twin past otherPast (agreed || (d.record steps).any Occasion.decides) (d.run steps)
      (e.run steps) := by
  induction steps generalizing d e agreed with
  | nil =>
    rw [record, List.any_nil, Bool.or_false]
    exact twin
  | cons s rest ih =>
    have later := ih (twin.step s)
    rwa [Bool.or_assoc, ← List.any_append] at later

end Twin

theorem refused_and_dismissed (d : Desk) (missing : Missing) (free : d.warning = none)
    (idle : d.pending = []) (lacks : d.draft.Lacks missing) :
    ((d.raise .submit).raise .dismiss).handleEvents =
      d.recast missing.warning.message (d.journal ++ [.rejected missing]) := by
  have refused : d.handle .submit = d.refused missing := by
    rw [← d.submit_of_lacks missing lacks]
    simp [handle, free]
  have handled : ((d.raise .submit).raise .dismiss).handleEvents =
      (d.handle .submit).handle .dismiss := by
    cases d
    subst idle
    rfl
  rw [handled, refused]
  show { d.refused missing with warning := none } = _
  rw [← free]
  rfl

/-- An attempt to submit a draft that lacks its name or its date, together with the
dismissal of the warning, changes only the status line and the journal. Whatever is done
later goes on as if it had never been made, with the same entries in the journal; and the
status line is the same too as soon as a submission is decided upon. -/
theorem rejected_attempt_leaves_no_trace (d : Desk) (free : d.warning = none)
    (idle : d.pending = []) (incomplete : Text.allBlank d.draft.name = true ∨ d.draft.date = none) :
    let tried := ((d.raise .submit).raise .dismiss).handleEvents
    (∃ missing : Missing, tried =
      { d with
        status := missing.warning.message
        journal := d.journal ++ [.rejected missing] }) ∧
    ∀ steps : List DeskStep,
      let spared := d.run steps
      let after := tried.run steps
      after.register = spared.register ∧ after.table = spared.table ∧
      after.draft = spared.draft ∧ after.pickerDate = spared.pickerDate ∧
      after.warning = spared.warning ∧ after.pending = spared.pending ∧
      (∃ log, spared.journal = d.journal ++ log ∧ after.journal = tried.journal ++ log) ∧
      ((∃ h ∈ d.history steps, h.isVerdict = true) → after.status = spared.status) := by
  intro tried
  obtain ⟨missing, lacks⟩ := d.draft.lacks_of_incomplete incomplete
  have changed : tried = d.recast missing.warning.message (d.journal ++ [.rejected missing]) :=
    d.refused_and_dismissed missing free idle lacks
  refine ⟨⟨missing, changed⟩, ?_⟩
  intro steps spared after
  have start : Twin d.journal tried.journal false d tried :=
    ⟨missing.warning.message, [], by simp, by simp [changed, recast], by simp⟩
  obtain ⟨status, log, told, alike, known⟩ := start.run steps
  have same : after = spared.recast status (tried.journal ++ log) := alike
  rw [same]
  refine ⟨rfl, rfl, rfl, rfl, rfl, rfl, ⟨log, told, rfl⟩, ?_⟩
  rintro ⟨h, told, verdict⟩
  obtain ⟨o, member, rfl⟩ := List.mem_map.mp told
  rw [o.isVerdict_happening] at verdict
  exact known (List.any_eq_true.mpr ⟨o, member, verdict⟩)

/-- A day is missing at the first attempt. The name is set anew, a day is picked and the
draft is booked: after the booking the status lines agree. -/
theorem attempt_without_date_leaves_no_trace :
    let today : Date := ⟨2025, 6, 14, by decide⟩
    let d := (opened today).run [.setName "Bob"]
    let tried := ((d.raise .submit).raise .dismiss).handleEvents
    let steps : List DeskStep := [.setName "Alice", .raise (.pick today), .raise .submit, .tick]
    d.warning = none ∧ d.pending = [] ∧ d.draft.date = none ∧ tried.status ≠ d.status ∧
      (tried.run steps).table = (d.run steps).table ∧
      (tried.run steps).status = (d.run steps).status := by
  intro today d tried steps
  obtain ⟨_, later⟩ := rejected_attempt_leaves_no_trace d rfl rfl (.inr rfl)
  obtain ⟨_, table, _, _, _, _, _, status⟩ := later steps
  exact ⟨rfl, rfl, rfl, by decide, table, status (by decide)⟩

end Desk

end BookingDesk
