import BookingDesk.Desk

/-!
What handling one event can do. A submission books a draft that is complete, refuses one
that lacks something, and is ignored as long as a warning is shown.
-/

namespace BookingDesk

open Calendar

namespace Draft

def Complete (d : Draft) (date : Date) : Prop :=
  Text.allBlank d.name = false ∧ d.date = some date

/-- What the draft lacks; it is asked for its name first. -/
def Lacks (d : Draft) : Missing → Prop
  | .name => Text.allBlank d.name = true
  | .date => Text.allBlank d.name = false ∧ d.date = none

def reservation (d : Draft) (date : Date) : Reservation :=
  ⟨d.name, date, d.kind⟩

theorem Complete.name_ne_empty {d : Draft} {date : Date} (complete : d.Complete date) :
    d.name ≠ "" := by
  intro empty
  have named := complete.1
  rw [empty] at named
  exact absurd named (by decide)

theorem check_of_complete (d : Draft) (date : Date) (complete : d.Complete date) :
    d.request.check = .ok (d.reservation date) := by
  obtain ⟨named, dated⟩ := complete
  simp [Request.check, request, Text.trim_eq_empty_iff, named, dated, reservation]

theorem check_of_lacks (d : Draft) (missing : Missing) (lacks : d.Lacks missing) :
    d.request.check = .error missing := by
  cases missing with
  | name =>
    have blank : Text.allBlank d.name = true := lacks
    simp [Request.check, request, Text.trim_eq_empty_iff, blank]
  | date =>
    obtain ⟨named, undated⟩ := lacks
    simp [Request.check, request, Text.trim_eq_empty_iff, named, undated]

theorem complete_or_lacks (d : Draft) :
    (∃ date, d.Complete date) ∨ ∃ missing, d.Lacks missing := by
  cases blank : Text.allBlank d.name with
  | true => exact .inr ⟨.name, blank⟩
  | false =>
    cases dated : d.date with
    | none => exact .inr ⟨.date, blank, dated⟩
    | some date => exact .inl ⟨date, blank, dated⟩

theorem submit_of_complete (d : Draft) (r : Register) (date : Date)
    (complete : d.Complete date) :
    d.submit r = .ok (⟨r.append (d.reservation date), r.size, d.reservation date,
      [r.appendEntry, .submitted r.size date d.kind]⟩, d.cleared) := by
  simp only [submit, Register.book, d.check_of_complete date complete, Except.map]
  rfl

theorem submit_of_lacks (d : Draft) (r : Register) (missing : Missing)
    (lacks : d.Lacks missing) : d.submit r = .error missing := by
  simp only [submit, Register.book, d.check_of_lacks missing lacks, Except.map]

end Draft

inductive Happening where
  /-- The name is set by hand. -/
  | named (name : String)
  | picked (date : Date)
  | dismissed
  | booked (reservation : Reservation)
  | refused (missing : Missing)
  /-- A submission has no effect, since a warning is shown. -/
  | ignored
deriving DecidableEq

def Happening.reservation? : Happening → Option Reservation
  | .booked b => some b
  | _ => none

namespace Desk

def happening (d : Desk) : DeskEvent → Happening
  | .submit =>
    if d.warning.isSome then .ignored
    else match d.draft.submit d.register with
      | .ok (booking, _) => .booked booking.reservation
      | .error missing => .refused missing
  | .pick date => .picked date
  | .dismiss => .dismissed

def booked (d : Desk) (date : Date) : Desk :=
  { d with
    register := d.register.append (d.draft.reservation date)
    draft := d.draft.cleared
    warning := none
    status := Draft.confirmation d.draft.name
    journal := d.journal ++ [d.register.appendEntry,
      .submitted d.register.size date d.draft.kind,
      .added d.register.size (d.register.size + 1)] }

def refused (d : Desk) (missing : Missing) : Desk :=
  { d with
    warning := some missing.warning
    status := missing.warning.message
    journal := d.journal ++ [.rejected missing] }

def picked (d : Desk) (date : Date) : Desk :=
  { d with pickerDate := date, draft := { d.draft with date := some date } }

theorem submit_of_complete (d : Desk) (date : Date) (complete : d.draft.Complete date) :
    d.submit = d.booked date := by
  simp [submit, Draft.attempt, d.draft.submit_of_complete d.register date complete, booked,
    Register.size_append, Draft.reservation]

theorem submit_of_lacks (d : Desk) (missing : Missing) (lacks : d.draft.Lacks missing) :
    d.submit = d.refused missing := by
  simp [submit, Draft.attempt, d.draft.submit_of_lacks d.register missing lacks, refused]

/-- All that can happen when an event is handled, and what becomes of the desk. -/
theorem handle_cases (d : Desk) (event : DeskEvent) :
    (∃ date, event = .pick date ∧ d.happening event = .picked date ∧
      d.handle event = d.picked date) ∨
    (event = .dismiss ∧ d.happening event = .dismissed ∧
      d.handle event = { d with warning := none }) ∨
    (event = .submit ∧ d.warning.isSome = true ∧ d.happening event = .ignored ∧
      d.handle event = d) ∨
    (∃ date, event = .submit ∧ d.warning = none ∧ d.draft.Complete date ∧
      d.happening event = .booked (d.draft.reservation date) ∧
      d.handle event = d.booked date) ∨
    (∃ missing, event = .submit ∧ d.warning = none ∧ d.draft.Lacks missing ∧
      d.happening event = .refused missing ∧ d.handle event = d.refused missing) := by
  cases event with
  | pick date => exact .inl ⟨date, rfl, rfl, rfl⟩
  | dismiss => exact .inr (.inl ⟨rfl, rfl, rfl⟩)
  | submit =>
    cases shown : d.warning with
    | some warning =>
      refine .inr (.inr (.inl ⟨rfl, rfl, ?_, ?_⟩))
      · simp [happening, shown]
      · simp [handle, shown]
    | none =>
      have allowed : d.handle .submit = d.submit := by simp [handle, shown]
      rcases d.draft.complete_or_lacks with ⟨date, complete⟩ | ⟨missing, lacks⟩
      · refine .inr (.inr (.inr (.inl ⟨date, rfl, rfl, complete, ?_, ?_⟩)))
        · simp [happening, shown, d.draft.submit_of_complete d.register date complete]
        · rw [allowed, d.submit_of_complete date complete]
      · refine .inr (.inr (.inr (.inr ⟨missing, rfl, rfl, lacks, ?_, ?_⟩)))
        · simp [happening, shown, d.draft.submit_of_lacks d.register missing lacks]
        · rw [allowed, d.submit_of_lacks missing lacks]

end Desk

end BookingDesk
