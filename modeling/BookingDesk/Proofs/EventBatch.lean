import BookingDesk.Proofs.Scheduling
import Mathlib.Data.List.Induction

/-!
What becomes of a desk that handles its waiting events, read off the events alone. At most
one submission is booked, the first that finds a name, a day and no warning; all other
submissions are in vain, and of the picks only the last ones count.
-/

namespace BookingDesk

open Calendar

namespace DeskEvent

def day? : DeskEvent → Option Date
  | .pick date => some date
  | .submit | .dismiss => none

def lastPick? (events : List DeskEvent) : Option Date :=
  (events.filterMap day?).getLast?

theorem lastPick?_append (first second : List DeskEvent) :
    lastPick? (first ++ second) = (lastPick? second).or (lastPick? first) := by
  rw [lastPick?, List.filterMap_append, List.getLast?_append, lastPick?, lastPick?]

theorem isSome_lastPick?_iff (events : List DeskEvent) :
    (lastPick? events).isSome = true ↔ ∃ date, .pick date ∈ events := by
  rw [lastPick?, List.getLast?_isSome, Ne, List.filterMap_eq_nil_iff]
  constructor
  · intro picked
    simp only [Classical.not_forall] at picked
    obtain ⟨event, member, picks⟩ := picked
    cases event with
    | pick date => exact ⟨date, member⟩
    | submit | dismiss => exact absurd rfl picks
  · rintro ⟨date, member⟩ without
    exact absurd (without _ member) (by simp [day?])

theorem lastWord?_of_split (before rest : List DeskEvent) (event : DeskEvent)
    (concerned : event.concernsWarning = true)
    (quiet : ∀ e ∈ rest, e.concernsWarning = false) :
    lastWord? concernsWarning (before ++ event :: rest) = some event := by
  have silent := (lastWord?_eq_none_iff concernsWarning rest).mpr quiet
  have single : lastWord? concernsWarning [event] = some event := by simp [lastWord?, concerned]
  rw [← List.singleton_append, lastWord?_append, lastWord?_append, silent, single]
  rfl

end DeskEvent

namespace Desk

open DeskEvent

def FreeAfter (d : Desk) (before : List DeskEvent) : Prop :=
  lastWord? concernsWarning before = some .dismiss ∨
    lastWord? concernsWarning before = none ∧ d.warning = none

/-- The event at this place is a submission that finds a name, a day and no warning. -/
def BookableAt (d : Desk) (events : List DeskEvent) (place : Nat) : Prop :=
  events[place]? = some .submit ∧ Text.allBlank d.draft.name = false ∧
    (d.draft.date.isSome = true ∨ ∃ date, .pick date ∈ events.take place) ∧
    d.FreeAfter (events.take place)

def FirstBookable (d : Desk) (events : List DeskEvent) (place : Nat) : Prop :=
  d.BookableAt events place ∧ ∀ earlier < place, ¬d.BookableAt events earlier

instance (d : Desk) (before : List DeskEvent) : Decidable (d.FreeAfter before) :=
  inferInstanceAs (Decidable (_ ∨ _))

instance (d : Desk) (events : List DeskEvent) (place : Nat) :
    Decidable (d.BookableAt events place) :=
  decidable_of_iff
    (events[place]? = some .submit ∧ Text.allBlank d.draft.name = false ∧
      (d.draft.date.isSome = true ∨ (lastPick? (events.take place)).isSome = true) ∧
      d.FreeAfter (events.take place))
    (by rw [isSome_lastPick?_iff, BookableAt])

instance (d : Desk) (events : List DeskEvent) (place : Nat) :
    Decidable (d.FirstBookable events place) :=
  inferInstanceAs (Decidable (_ ∧ ∀ earlier < place, ¬d.BookableAt events earlier))

theorem FirstBookable.iff_eq {d : Desk} {events : List DeskEvent} {place : Nat}
    (first : d.FirstBookable events place) (other : Nat) :
    d.FirstBookable events other ↔ other = place := by
  constructor
  · intro one
    rcases Nat.lt_trichotomy other place with less | same | more
    · exact absurd one.1 (first.2 other less)
    · exact same
    · exact absurd first.1 (one.2 place more)
  · rintro rfl
    exact first

theorem exists_firstBookable (d : Desk) (events : List DeskEvent) (place : Nat)
    (bookable : d.BookableAt events place) : ∃ first, d.FirstBookable events first := by
  induction place using Nat.strongRecOn with
  | ind place ih =>
    by_cases earlier : ∃ less, less < place ∧ d.BookableAt events less
    · obtain ⟨less, below, sooner⟩ := earlier
      exact ih less below sooner
    · refine ⟨place, bookable, ?_⟩
      intro less below sooner
      exact earlier ⟨less, below, sooner⟩

theorem bookableAt_append (d : Desk) (before rest : List DeskEvent) (place : Nat)
    (inside : place < before.length) :
    d.BookableAt (before ++ rest) place ↔ d.BookableAt before place := by
  rw [BookableAt, BookableAt, List.getElem?_append_left inside,
    List.take_append_of_le_length (Nat.le_of_lt inside)]

/-- What the warning is after the last event that concerned it, which was not booked. -/
def WarningAfter (old new : Option Warning) : Option DeskEvent → Prop
  | none => new = old
  | some .submit => new.isSome = true
  | some _ => new = none

theorem WarningAfter.isSome_iff {old new : Option Warning} {event : DeskEvent}
    (stands : WarningAfter old new (some event)) : new.isSome = true ↔ event = .submit := by
  cases event with
  | submit =>
    have shown : new.isSome = true := stands
    simp [shown]
  | dismiss | pick date =>
    have gone : new = none := stands
    simp [gone]

structure Unbooked (d : Desk) (events : List DeskEvent) (after : Desk) : Prop where
  register : after.register = d.register
  table : after.table = d.table
  draft : after.draft = { d.draft with date := (lastPick? events).or d.draft.date }
  pickerDate : after.pickerDate = (lastPick? events).getD d.pickerDate
  warning : WarningAfter d.warning after.warning (lastWord? concernsWarning events)

namespace Unbooked

variable {d after : Desk} {events : List DeskEvent}

theorem free_iff (unbooked : Unbooked d events after) :
    after.warning = none ↔ d.FreeAfter events := by
  have warning := unbooked.warning
  rw [FreeAfter]
  cases last : lastWord? concernsWarning events with
  | none =>
    rw [last, WarningAfter] at warning
    simp [warning]
  | some event =>
    rw [last] at warning
    cases event with
    | submit =>
      have shown : after.warning.isSome = true := warning
      simp [Option.isSome_iff_ne_none.mp shown]
    | dismiss =>
      have gone : after.warning = none := warning
      simp [gone]
    | pick date =>
      have concerned := List.mem_of_getLast? last
      simp [concernsWarning] at concerned

theorem dated_iff (unbooked : Unbooked d events after) :
    after.draft.date.isSome = true ↔
      d.draft.date.isSome = true ∨ ∃ date, .pick date ∈ events := by
  rw [unbooked.draft, Option.isSome_or, Bool.or_eq_true, isSome_lastPick?_iff, or_comm]

/-- The next event is booked just when it is a submission that can be booked. -/
theorem bookableAt_iff (unbooked : Unbooked d events after) (event : DeskEvent) :
    d.BookableAt (events ++ [event]) events.length ↔
      event = .submit ∧ after.warning = none ∧ ∃ date, after.draft.Complete date := by
  have name : after.draft.name = d.draft.name := by rw [unbooked.draft]
  have complete : (∃ date, after.draft.Complete date) ↔
      Text.allBlank d.draft.name = false ∧ after.draft.date.isSome = true := by
    simp only [Draft.Complete, name, exists_and_left, Option.isSome_iff_exists]
  rw [BookableAt, complete, unbooked.dated_iff, unbooked.free_iff]
  simp only [List.getElem?_concat_length, Option.some.injEq, List.take_left']
  constructor
  · rintro ⟨submits, named, dated, free⟩
    exact ⟨submits, free, named, dated⟩
  · rintro ⟨submits, free, named, dated⟩
    exact ⟨submits, named, dated, free⟩

theorem warningEvent (unbooked : Unbooked d events after) (event : DeskEvent) (later : Desk)
    (concerned : event.concernsWarning = true) (register : later.register = after.register)
    (table : later.table = after.table) (draft : later.draft = after.draft)
    (pickerDate : later.pickerDate = after.pickerDate)
    (warning : WarningAfter d.warning later.warning (some event)) :
    Unbooked d (events ++ [event]) later := by
  have pick : lastPick? (events ++ [event]) = lastPick? events := by
    rw [lastPick?_append]
    cases event with
    | pick date => contradiction
    | submit | dismiss => rfl
  have word := lastWord?_of_split events [] event concerned (by simp)
  refine ⟨register.trans unbooked.register, table.trans unbooked.table, ?_, ?_, ?_⟩
  · rw [draft, pick, unbooked.draft]
  · rw [pickerDate, pick, unbooked.pickerDate]
  · rw [word]
    exact warning

theorem handle (unbooked : Unbooked d events after) (event : DeskEvent)
    (vain : ¬d.BookableAt (events ++ [event]) events.length) :
    Unbooked d (events ++ [event]) (after.handle event) := by
  rcases after.handle_cases event with ⟨date, rfl, _, done⟩ | ⟨rfl, _, done⟩ |
    ⟨rfl, shown, _, done⟩ | ⟨date, rfl, free, complete, _, _⟩ | ⟨missing, rfl, _, _, _, done⟩
  · rw [done]
    refine ⟨unbooked.register, unbooked.table, ?_, ?_, ?_⟩
    · rw [picked, lastPick?_append, unbooked.draft]
      rfl
    · rw [picked, lastPick?_append]
      rfl
    · rw [lastWord?_append]
      exact unbooked.warning
  · rw [done]
    exact unbooked.warningEvent .dismiss _ rfl rfl rfl rfl rfl rfl
  · rw [done]
    exact unbooked.warningEvent .submit _ rfl rfl rfl rfl rfl shown
  · have bookable := (unbooked.bookableAt_iff .submit).mpr ⟨rfl, free, date, complete⟩
    exact absurd bookable vain
  · rw [done]
    exact unbooked.warningEvent .submit _ rfl rfl rfl rfl rfl rfl

end Unbooked

theorem unbooked_handleAll (d : Desk) (events : List DeskEvent)
    (vain : ∀ place < events.length, ¬d.BookableAt events place) :
    Unbooked d events (events.foldl handle d) := by
  -- From the end, since the closed form is about what comes last.
  induction events using List.reverseRecOn with
  | nil => exact ⟨rfl, rfl, rfl, rfl, rfl⟩
  | append_singleton before event ih =>
    have earlier : ∀ place < before.length, ¬d.BookableAt before place := by
      intro place inside bookable
      have bound : place < (before ++ [event]).length := by
        rw [List.length_append]
        omega
      exact vain place bound ((d.bookableAt_append before [event] place inside).mpr bookable)
    have last : ¬d.BookableAt (before ++ [event]) before.length :=
      vain before.length (by simp)
    rw [List.foldl_append]
    exact (ih earlier).handle event last

structure Booked (d : Desk) (before rest : List DeskEvent) (date : Date) (after : Desk) : Prop where
  chosen : (lastPick? before).or d.draft.date = some date
  register : after.register = d.register.append (d.draft.reservation date)
  table : after.table = d.table
  draft : after.draft = ⟨"", lastPick? rest, d.draft.kind⟩
  pickerDate : after.pickerDate = (lastPick? (before ++ .submit :: rest)).getD d.pickerDate
  warning : WarningAfter none after.warning (lastWord? concernsWarning rest)

theorem not_bookableAt_of_blank (d : Desk) (events : List DeskEvent) (place : Nat)
    (blank : d.draft.name = "") : ¬d.BookableAt events place := by
  rintro ⟨_, named, _⟩
  rw [blank] at named
  exact absurd named (by decide)

theorem booked_handleAll (d : Desk) (before rest : List DeskEvent)
    (first : d.FirstBookable (before ++ .submit :: rest) before.length) :
    ∃ date, Booked d before rest date ((before ++ .submit :: rest).foldl handle d) := by
  have vain : ∀ place < before.length, ¬d.BookableAt before place := by
    intro place inside bookable
    exact first.2 place inside ((d.bookableAt_append before _ place inside).mpr bookable)
  have start := d.unbooked_handleAll before vain
  rw [List.foldl_append, List.foldl_cons]
  generalize before.foldl handle d = reached at start
  have bookable : d.BookableAt (before ++ [.submit]) before.length := by
    have one := first.1
    rw [← List.singleton_append, ← List.append_assoc,
      d.bookableAt_append _ rest before.length (by simp)] at one
    exact one
  obtain ⟨_, free, date, complete⟩ := (start.bookableAt_iff .submit).mp bookable
  have books : reached.handle .submit = reached.booked date := by
    rw [handle, if_neg (by simp [free]), reached.submit_of_complete date complete]
  rw [books]
  have finish := (reached.booked date).unbooked_handleAll rest
    (fun place _ => not_bookableAt_of_blank _ rest place rfl)
  refine ⟨date, ?_, ?_, ?_, ?_, ?_, ?_⟩
  · rw [← complete.2, start.draft]
  · rw [finish.register, booked, start.register, start.draft]
    rfl
  · rw [finish.table, booked, start.table]
  · rw [finish.draft, booked, Draft.cleared, start.draft, Option.or_none]
  · rw [finish.pickerDate, booked, start.pickerDate, ← List.singleton_append, lastPick?_append,
      lastPick?_append]
    cases lastPick? rest <;> rfl
  · exact finish.warning

theorem BookableAt.split {d : Desk} {events : List DeskEvent} {place : Nat}
    (bookable : d.BookableAt events place) :
    ∃ before rest, events = before ++ .submit :: rest ∧ before.length = place := by
  obtain ⟨inside, submits⟩ := List.getElem?_eq_some_iff.mp bookable.1
  refine ⟨events.take place, events.drop (place + 1), ?_, by simp; omega⟩
  rw [← submits, List.getElem_cons_drop, List.take_append_drop]

/-- The warning stands at the end just when the last event that concerned it is a
submission other than the one that was booked. -/
theorem Booked.warning_iff {d after : Desk} {before rest : List DeskEvent} {date : Date}
    (outcome : Booked d before rest date after) (front tail : List DeskEvent) (event : DeskEvent)
    (same : before ++ .submit :: rest = front ++ event :: tail)
    (concerned : event.concernsWarning = true)
    (quiet : ∀ e ∈ tail, e.concernsWarning = false) :
    after.warning.isSome = true ↔ event = .submit ∧ front.length ≠ before.length := by
  have warning := outcome.warning
  have atBooking : rest = tail → ¬after.warning.isSome = true := by
    rintro rfl
    rw [(lastWord?_eq_none_iff concernsWarning rest).mpr quiet] at warning
    have gone : after.warning = none := warning
    simp [gone]
  rcases List.append_eq_append_iff.mp same with ⟨gap, rfl, next⟩ | ⟨gap, rfl, next⟩
  · cases gap with
    | nil =>
      have last : rest = tail := (List.cons.inj next).2
      simp [atBooking last]
    | cons first gap =>
      -- The last word comes after the booking.
      have later : rest = gap ++ event :: tail := (List.cons.inj next).2
      rw [later, lastWord?_of_split gap tail event concerned quiet] at warning
      simp [warning.isSome_iff]
  · cases gap with
    | nil =>
      have last : tail = rest := (List.cons.inj next).2
      simp [atBooking last.symm]
    | cons first gap =>
      -- The booked submission would come after the last word.
      have later : tail = gap ++ .submit :: rest := (List.cons.inj next).2
      have silent := quiet .submit (by simp [later])
      contradiction

theorem Booked.reservations {d after : Desk} {before rest : List DeskEvent} {date : Date}
    (outcome : Booked d before rest date after) :
    after.register.reservations = d.register.reservations ++ [d.draft.reservation date] := by
  rw [outcome.register]
  rfl

/-- The waiting events in closed form. The first submission that finds a name, a day and
no warning is booked, for the day picked last before it; if there is none, nothing is
added. The draft keeps its kind, loses its name by the booking and then has the day picked
last since; the calendar shows the day picked last; and the warning stands just when the
last event that concerned it is a submission that was not booked. -/
theorem batch_in_closed_form (d : Desk) :
    let events := d.pending
    let after := d.handleEvents
    (∀ place, d.FirstBookable events place →
      ∃ date, (lastPick? (events.take place)).or d.draft.date = some date ∧
        after.register.reservations =
          d.register.reservations ++ [⟨d.draft.name, date, d.draft.kind⟩] ∧
        after.register = d.register.append ⟨d.draft.name, date, d.draft.kind⟩ ∧
        after.draft = ⟨"", lastPick? (events.drop (place + 1)), d.draft.kind⟩) ∧
    ((¬∃ place, d.FirstBookable events place) →
      after.register = d.register ∧
        after.draft = ⟨d.draft.name, (lastPick? events).or d.draft.date, d.draft.kind⟩) ∧
    after.pickerDate = (lastPick? events).getD d.pickerDate ∧
    ((∀ e ∈ events, e.concernsWarning = false) → after.warning = d.warning) ∧
    (∀ before event rest, events = before ++ event :: rest → event.concernsWarning = true →
      (∀ e ∈ rest, e.concernsWarning = false) →
      (after.warning.isSome = true ↔
        event = .submit ∧ ¬d.FirstBookable events before.length)) ∧
    after.pending = [] ∧ after.table = d.table := by
  intro events after
  by_cases books : ∃ place, d.FirstBookable events place
  · obtain ⟨place, first⟩ := books
    obtain ⟨before, rest, split, rfl⟩ := first.1.split
    rw [split] at first ⊢
    obtain ⟨date, outcome⟩ := { d with pending := [] }.booked_handleAll before rest first
    have reached : after = (before ++ .submit :: rest).foldl handle { d with pending := [] } := by
      rw [← split]
      rfl
    rw [← reached] at outcome
    refine ⟨?_, ?_, outcome.pickerDate, ?_, ?_, d.pending_handleEvents, outcome.table⟩
    · intro place one
      have same := (first.iff_eq place).mp one
      have front : (before ++ .submit :: rest).take place = before := by simp [same]
      have back : (before ++ .submit :: rest).drop (place + 1) = rest := by simp [same]
      rw [front, back]
      exact ⟨date, outcome.chosen, outcome.reservations, outcome.register, outcome.draft⟩
    · intro vain
      exact absurd ⟨_, first⟩ vain
    · intro quiet
      exact absurd (quiet .submit (by simp)) (by decide)
    · intro front event tail same concerned quiet
      rw [outcome.warning_iff front tail event same concerned quiet, first.iff_eq]
  · have vain : ∀ place < events.length, ¬d.BookableAt events place := by
      intro place _ bookable
      exact books (d.exists_firstBookable events place bookable)
    have outcome : Unbooked { d with pending := [] } events after :=
      { d with pending := [] }.unbooked_handleAll events vain
    refine ⟨?_, ?_, outcome.pickerDate, ?_, ?_, d.pending_handleEvents, outcome.table⟩
    · intro place first
      exact absurd ⟨place, first⟩ books
    · intro _
      exact ⟨outcome.register, outcome.draft⟩
    · intro quiet
      have warning := outcome.warning
      rw [(lastWord?_eq_none_iff concernsWarning events).mpr quiet] at warning
      exact warning
    · intro before event rest split concerned quiet
      have warning := outcome.warning
      have unbooked : ¬d.FirstBookable events before.length := fun first => books ⟨_, first⟩
      rw [split, lastWord?_of_split before rest event concerned quiet] at warning
      rw [warning.isSome_iff]
      simp only [unbooked, not_false_eq_true, and_true]

/-- Of four submissions the first is blocked, the second lacks a day, the third is booked
for the second of three days, and the last one finds the form empty. -/
theorem third_submission_is_booked :
    let day : Nat → Date := fun n => (Date.ofFields? 2025 6 n).getD ⟨2025, 6, 1, by decide⟩
    let events : List DeskEvent := [.submit, .dismiss, .submit, .pick (day 2), .pick (day 3),
      .dismiss, .submit, .pick (day 4), .submit]
    let d : Desk := { opened (day 1) with
      draft := ⟨"Alice", none, .meeting⟩, warning := some ⟨"Erreur", ""⟩, pending := events }
    d.FirstBookable events 6 ∧
      d.handleEvents.register.reservations = [⟨"Alice", day 3, .meeting⟩] ∧
      d.handleEvents.register = d.register.append ⟨"Alice", day 3, .meeting⟩ ∧
      d.handleEvents.draft = ⟨"", some (day 4), .meeting⟩ ∧
      d.handleEvents.warning.isSome = true := by
  intro day events d
  have first : d.FirstBookable events 6 := by decide
  obtain ⟨booked, _, _, _, warned, _⟩ := d.batch_in_closed_form
  obtain ⟨date, chosen, reservations, register, draft⟩ := booked 6 first
  obtain rfl : date = day 3 := Option.some.inj (chosen.symm.trans (by decide))
  refine ⟨first, reservations, register, draft.trans (by decide), ?_⟩
  exact (warned (events.take 8) .submit [] (by decide) rfl (by simp)).mpr (by decide)

end Desk

end BookingDesk
