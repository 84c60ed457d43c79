import BookingDesk.Proofs.DeskRun

/-!
The status line and the warning never contradict the register. The status line tells of
the last submission that was decided upon, even when its warning is long gone, and the
warning is shown just as long as a submission that added nothing is the last word.
-/

namespace BookingDesk

open Calendar

theorem Text.head?_toList_append (s t : String) (c : Char) (first : s.toList.head? = some c) :
    (s ++ t).toList.head? = some c := by
  rw [String.toList_append, List.head?_append, first, Option.some_or]

theorem Draft.confirmation_ne_idleStatus (client : String) :
    Draft.confirmation client ≠ Desk.idleStatus := by
  intro same
  have first : (Draft.confirmation client).toList.head? = some 'R' :=
    Text.head?_toList_append "Réservation ajoutée pour " client 'R' (by decide)
  rw [same] at first
  exact absurd first (by decide)

namespace Occasion

def fails (o : Occasion) : Bool :=
  o.cause = .handling .submit ∧ o.reservation? = none

theorem lastWord?_snoc (past : List Occasion) (o : Occasion) :
    lastWord? concernsWarning (past ++ [o]) =
      if o.concernsWarning then some o else lastWord? concernsWarning past := by
  rw [lastWord?_append]
  by_cases concerned : o.concernsWarning = true
  · simp [lastWord?, concerned]
  · simp [lastWord?, concerned]

end Occasion

namespace Desk

def ReportsOutcome (d : Desk) : Prop :=
  d.status = "Veuillez remplir tous les champs." ∨
    ∃ b, d.register.reservations.getLast? = some b ∧ d.status = Draft.confirmation b.client

/-- The status line and the warning agree with the events handled so far. -/
structure Truthful (past : List Occasion) (d : Desk) : Prop where
  warned : ∀ warning, d.warning = some warning →
    warning = ⟨"Erreur", "Veuillez remplir tous les champs."⟩ ∧ d.status = warning.message
  idle : past.any Occasion.decides = false → d.status = idleStatus
  reports : past.any Occasion.decides = true → d.ReportsOutcome
  shown : d.warning.isSome = (lastWord? Occasion.concernsWarning past).any Occasion.fails

namespace Truthful

variable {past : List Occasion} {d : Desk}

theorem undecided (truthful : Truthful past d) (o : Occasion) (quiet : o.decides = false)
    (after : Desk) (status : after.status = d.status) (register : after.register = d.register)
    (warned : ∀ warning, after.warning = some warning → d.warning = some warning)
    (shown : after.warning.isSome =
      (lastWord? Occasion.concernsWarning (past ++ [o])).any Occasion.fails) :
    Truthful (past ++ [o]) after where
  warned := by
    intro warning stands
    rw [status]
    exact truthful.warned warning (warned warning stands)
  idle := by
    intro none
    rw [status]
    exact truthful.idle (by simpa [quiet] using none)
  reports := by
    intro some
    rw [ReportsOutcome, status, register]
    exact truthful.reports (by simpa [quiet] using some)
  shown := shown

theorem decided (o : Occasion) (verdict : o.decides = true) (concerned : o.concernsWarning = true)
    (after : Desk) (reports : after.ReportsOutcome)
    (warned : ∀ warning, after.warning = some warning →
      warning = ⟨"Erreur", "Veuillez remplir tous les champs."⟩ ∧ after.status = warning.message)
    (shown : after.warning.isSome = o.fails) :
    Truthful (past ++ [o]) after where
  warned := warned
  idle := by simp [verdict]
  reports := fun _ => reports
  shown := by simp [Occasion.lastWord?_snoc, concerned, shown]

end Truthful

theorem opened_truthful (today : Date) : Truthful [] (opened today) where
  warned := by
    intro warning shown
    contradiction
  idle := fun _ => rfl
  reports := by simp
  shown := rfl

theorem truthful_recorded : Recorded Truthful where
  name := by
    intro past d name kept
    refine kept.undecided ⟨d, .naming name⟩ (by simp) _ ?_ ?_ (fun _ stands => stands) ?_
    · rfl
    · rfl
    · rw [Occasion.lastWord?_snoc]
      exact kept.shown
  kind := fun _ _ _ kept => ⟨kept.warned, kept.idle, kept.reports, kept.shown⟩
  pending := fun _ _ _ kept => ⟨kept.warned, kept.idle, kept.reports, kept.shown⟩
  handle := by
    intro past d event kept
    rcases d.handle_cases event with ⟨date, rfl, _, done⟩ | ⟨rfl, _, done⟩ |
      ⟨rfl, shown, _, done⟩ | ⟨date, rfl, free, complete, _, done⟩ |
      ⟨missing, rfl, free, lacks, _, done⟩
    · rw [done]
      apply kept.undecided ⟨d, .handling (.pick date)⟩ (by simp) (d.picked date) rfl rfl
        (fun _ stands => stands)
      rw [Occasion.lastWord?_snoc]
      exact kept.shown
    · rw [done]
      apply kept.undecided ⟨d, .handling .dismiss⟩ (by simp) { d with warning := none } rfl rfl
        (by simp)
      simp [Occasion.lastWord?_snoc, Occasion.concernsWarning, DeskEvent.concernsWarning,
        Occasion.fails]
    · have undecided := Occasion.decides_of_shown shown
      have silent := Occasion.reservation?_of_undecided _ undecided
      rw [done]
      apply kept.undecided _ undecided d rfl rfl (fun _ stands => stands)
      simp [Occasion.lastWord?_snoc, Occasion.concernsWarning, DeskEvent.concernsWarning,
        Occasion.fails, shown, silent]
    · have added := Occasion.reservation?_of_complete ⟨d, .handling .submit⟩ date
        (by simp [free]) complete
      rw [done]
      apply Truthful.decided _ (by simp [free]) rfl
      · exact .inr ⟨d.draft.reservation date, by simp [booked, Register.append], rfl⟩
      · simp [booked]
      · simp [booked, Occasion.fails, added]
    · have silent := Occasion.reservation?_of_lacks ⟨d, .handling .submit⟩ missing lacks
      rw [done]
      apply Truthful.decided _ (by simp [free]) rfl
      · exact .inl rfl
      · intro warning stands
        obtain rfl := Option.some.inj stands
        exact ⟨rfl, rfl⟩
      · simp [refused, Occasion.fails, silent]
  refresh := by
    intro past d kept
    refine ⟨kept.warned, kept.idle, ?_, kept.shown⟩
    intro some
    rw [ReportsOutcome, reservations_refreshTable]
    exact kept.reports some

theorem ReportsOutcome.status_ne_idleStatus {d : Desk} (reports : d.ReportsOutcome) :
    d.status ≠ idleStatus := by
  rcases reports with warned | ⟨b, _, confirmed⟩
  · rw [warned]
    decide
  · rw [confirmed]
    exact Draft.confirmation_ne_idleStatus b.client

theorem Truthful.idle_or_reports {past : List Occasion} {d : Desk} (truthful : Truthful past d) :
    d.status = idleStatus ∨ d.ReportsOutcome := by
  cases decided : past.any Occasion.decides with
  | false => exact .inl (truthful.idle decided)
  | true => exact .inr (truthful.reports decided)

theorem Truthful.status_eq_idleStatus_iff {past : List Occasion} {d : Desk}
    (truthful : Truthful past d) : d.status = idleStatus ↔ past.any Occasion.decides = false := by
  constructor
  · intro idle
    cases decided : past.any Occasion.decides with
    | false => rfl
    | true => exact absurd idle (truthful.reports decided).status_ne_idleStatus
  · exact truthful.idle

/-- Whatever was done in a window: a warning that is shown is the one there is, and the
status line repeats it. The status line is the first one, the warning's message, or the
confirmation for the last reservation. It is the first one just as long as no submission
was decided upon. And a warning is shown if, and only if, the last submission or dismissal
was a submission that added nothing. -/
theorem status_never_contradicts (today : Date) (steps : List WindowStep) :
    let d := ((Window.opened today).run steps).desk
    let handled := (Window.opened today).occasions steps
    (∀ warning, d.warning = some warning →
      warning = ⟨"Erreur", "Veuillez remplir tous les champs."⟩ ∧ d.status = warning.message) ∧
    (d.status = "Aucune réservation" ∨ d.status = "Veuillez remplir tous les champs." ∨
      ∃ b, d.register.reservations.getLast? = some b ∧
        d.status = "Réservation ajoutée pour " ++ b.client) ∧
    (d.status = "Aucune réservation" ↔
      ∀ o ∈ handled, ¬ (o.cause = .handling .submit ∧ o.desk.warning = none)) ∧
    (d.register.reservations ≠ [] → d.status ≠ "Aucune réservation") ∧
    (d.warning.isSome = true ↔
      ∃ o, (handled.filter Occasion.concernsWarning).getLast? = some o ∧
        o.cause = .handling .submit ∧ o.reservation? = none) := by
  intro d handled
  have truthful : Truthful handled d :=
    Window.run_recorded truthful_recorded (Window.opened today) steps (opened_truthful today)
  have stored : d.register.reservations = handled.filterMap Occasion.reservation? :=
    Window.run_recorded (reservations_recorded []) (Window.opened today) steps rfl
  refine ⟨truthful.warned, truthful.idle_or_reports, ?_, ?_, ?_⟩
  · rw [← idleStatus, truthful.status_eq_idleStatus_iff]
    simp [Occasion.decides]
  · intro some
    obtain ⟨b, member⟩ := List.exists_mem_of_ne_nil _ some
    rw [stored, List.mem_filterMap] at member
    obtain ⟨o, seen, added⟩ := member
    have decided : handled.any Occasion.decides = true :=
      List.any_eq_true.mpr ⟨o, seen, o.decides_of_reservation? b added⟩
    exact (truthful.reports decided).status_ne_idleStatus
  · rw [truthful.shown, lastWord?]
    simp [Option.any_eq_true, Occasion.fails]

/-- The form is added twice, and the second time it is blank. -/
theorem status_after_blank_form :
    let today : Date := ⟨2025, 6, 14, by decide⟩
    let steps : List WindowStep := [.drawn (.typeName "Alice"), .drawn .clickToday,
      .drawn .clickAdd, .drawn .clickAdd]
    let d := ((Window.opened today).run steps).desk
    let warning : Warning := ⟨"Erreur", "Veuillez remplir tous les champs."⟩
    d.warning = some warning ∧ d.register.reservations ≠ [] ∧ d.status = warning.message ∧
      d.status ≠ "Aucune réservation" := by
  intro today steps d warning
  have shown : d.warning = some warning := by decide
  have stored : d.register.reservations ≠ [] := by decide
  obtain ⟨warned, _, _, told, _⟩ := status_never_contradicts today steps
  exact ⟨shown, stored, (warned warning shown).2, told stored⟩

end Desk

end BookingDesk
