import BookingDesk.Proofs.Submission

/-!
The record of a run: each name that was set by hand and each event that was handled, in
order, together with the desk as it stood just before. What is said of a whole run is said
of its record, and it is proved by looking at one change of the desk at a time.
-/

namespace BookingDesk

open Calendar

/-- The last of the items that are concerned. -/
def lastWord? {α : Type} (concerned : α → Bool) (items : List α) : Option α :=
  (items.filter concerned).getLast?

theorem lastWord?_append {α : Type} (concerned : α → Bool) (first second : List α) :
    lastWord? concerned (first ++ second) =
      (lastWord? concerned second).or (lastWord? concerned first) := by
  rw [lastWord?, List.filter_append, List.getLast?_append, lastWord?, lastWord?]

theorem lastWord?_eq_none_iff {α : Type} (concerned : α → Bool) (items : List α) :
    lastWord? concerned items = none ↔ ∀ item ∈ items, concerned item = false := by
  simp [lastWord?]

def DeskEvent.concernsWarning : DeskEvent → Bool
  | .submit | .dismiss => true
  | .pick _ => false

inductive Cause where
  | naming (name : String)
  | handling (event : DeskEvent)
deriving DecidableEq

structure Occasion where
  desk : Desk
  cause : Cause
deriving DecidableEq

namespace Occasion

def happening (o : Occasion) : Happening :=
  match o.cause with
  | .naming name => .named name
  | .handling event => o.desk.happening event

def concernsWarning (o : Occasion) : Bool :=
  match o.cause with
  | .naming _ => false
  | .handling event => event.concernsWarning

/-- The draft is submitted and no warning stands in the way. -/
def decides (o : Occasion) : Bool :=
  o.cause = .handling .submit ∧ o.desk.warning = none

def reservation? (o : Occasion) : Option Reservation :=
  if o.decides ∧ Text.allBlank o.desk.draft.name = false then
    o.desk.draft.date.map o.desk.draft.reservation
  else none

@[simp] theorem decides_naming (d : Desk) (name : String) : decides ⟨d, .naming name⟩ = false := by
  simp [decides]

@[simp] theorem decides_pick (d : Desk) (date : Date) :
    decides ⟨d, .handling (.pick date)⟩ = false := by
  simp [decides]

@[simp] theorem decides_dismiss (d : Desk) : decides ⟨d, .handling .dismiss⟩ = false := by
  simp [decides]

@[simp] theorem decides_submit (d : Desk) :
    decides ⟨d, .handling .submit⟩ = d.warning.isNone := by
  cases shown : d.warning <;> simp [decides, shown]

theorem decides_of_shown {d : Desk} (shown : d.warning.isSome = true) :
    decides ⟨d, .handling .submit⟩ = false := by
  simpa using shown

theorem reservation?_of_undecided (o : Occasion) (undecided : o.decides = false) :
    o.reservation? = none := by
  simp [reservation?, undecided]

theorem decides_of_reservation? (o : Occasion) (b : Reservation) (added : o.reservation? = some b) :
    o.decides = true := by
  cases decided : o.decides with
  | true => rfl
  | false =>
    rw [o.reservation?_of_undecided decided] at added
    contradiction

theorem named_of_reservation? (o : Occasion) (b : Reservation) (added : o.reservation? = some b) :
    Text.allBlank b.client = false := by
  by_cases complete : o.decides = true ∧ Text.allBlank o.desk.draft.name = false
  · simp only [reservation?, complete, and_self, if_true, Option.map_eq_some_iff] at added
    obtain ⟨date, _, rfl⟩ := added
    exact complete.2
  · simp [reservation?, complete] at added

theorem reservation?_of_complete (o : Occasion) (date : Date) (decided : o.decides = true)
    (complete : o.desk.draft.Complete date) :
    o.reservation? = some (o.desk.draft.reservation date) := by
  simp [reservation?, decided, complete.1, complete.2]

theorem reservation?_of_lacks (o : Occasion) (missing : Missing)
    (lacks : o.desk.draft.Lacks missing) : o.reservation? = none := by
  cases missing with
  | name =>
    have blank : Text.allBlank o.desk.draft.name = true := lacks
    simp [reservation?, blank]
  | date => simp [reservation?, lacks.2]

theorem reservation?_happening (o : Occasion) :
    o.happening.reservation? = o.reservation? := by
  obtain ⟨d, name | event⟩ := o
  · rfl
  · change (d.happening event).reservation? = _
    rcases d.handle_cases event with ⟨date, rfl, what, _⟩ | ⟨rfl, what, _⟩ |
      ⟨rfl, shown, what, _⟩ | ⟨date, rfl, free, complete, what, _⟩ |
      ⟨missing, rfl, _, lacks, what, _⟩
    · rw [what, reservation?_of_undecided _ (decides_pick d date)]
      rfl
    · rw [what, reservation?_of_undecided _ (decides_dismiss d)]
      rfl
    · rw [what, reservation?_of_undecided _ (decides_of_shown shown)]
      rfl
    · rw [what, reservation?_of_complete ⟨d, .handling .submit⟩ date (by simp [free]) complete]
      rfl
    · rw [what, reservation?_of_lacks ⟨d, .handling .submit⟩ missing lacks]
      rfl

theorem filterMap_happening (occasions : List Occasion) :
    (occasions.map happening).filterMap Happening.reservation? =
      occasions.filterMap reservation? := by
  rw [List.filterMap_map]
  congr 1
  funext o
  exact o.reservation?_happening

end Occasion

namespace Desk

def handlings (d : Desk) : List DeskEvent → List Occasion
  | [] => []
  | event :: rest => ⟨d, .handling event⟩ :: (d.handle event).handlings rest

def stepRecord (d : Desk) : DeskStep → List Occasion
  | .setName name => [⟨d, .naming name⟩]
  | .handleEvents | .tick => { d with pending := [] }.handlings d.pending
  | .setKind _ | .raise _ | .refreshTable => []

def record (d : Desk) : List DeskStep → List Occasion
  | [] => []
  | s :: rest => d.stepRecord s ++ (d.step s).record rest

def history (d : Desk) (steps : List DeskStep) : List Happening :=
  (d.record steps).map Occasion.happening

/-- A property of a desk and of the record so far that every single change keeps. -/
structure Recorded (P : List Occasion → Desk → Prop) : Prop where
  name : ∀ past d name, P past d →
    P (past ++ [⟨d, .naming name⟩]) { d with draft := { d.draft with name := name } }
  kind : ∀ past d kind, P past d → P past { d with draft := { d.draft with kind := kind } }
  pending : ∀ past d events, P past d → P past { d with pending := events }
  handle : ∀ past d event, P past d → P (past ++ [⟨d, .handling event⟩]) (d.handle event)
  refresh : ∀ past d, P past d → P past d.refreshTable

/-- The property is one of the desk alone, whatever its past. -/
abbrev Stable (P : Desk → Prop) : Prop :=
  Recorded fun _ => P

namespace Recorded

variable {P : List Occasion → Desk → Prop}

theorem handleAll (recorded : Recorded P) (past : List Occasion) (d : Desk)
    (events : List DeskEvent) (start : P past d) :
    P (past ++ d.handlings events) (events.foldl Desk.handle d) := by
  induction events generalizing past d with
  | nil =>
    rw [handlings, List.append_nil]
    exact start
  | cons event rest ih =>
    have later := ih _ (d.handle event) (recorded.handle past d event start)
    rwa [List.append_assoc, List.singleton_append] at later

theorem handleEvents (recorded : Recorded P) (past : List Occasion) (d : Desk)
    (start : P past d) : P (past ++ d.stepRecord .handleEvents) d.handleEvents :=
  recorded.handleAll past _ d.pending (recorded.pending past d [] start)

theorem step (recorded : Recorded P) (past : List Occasion) (d : Desk) (s : DeskStep)
    (start : P past d) : P (past ++ d.stepRecord s) (d.step s) := by
  cases s with
  | setName name => exact recorded.name past d name start
  | handleEvents => exact recorded.handleEvents past d start
  | tick => exact recorded.refresh _ _ (recorded.handleEvents past d start)
  | setKind kind =>
    rw [stepRecord, List.append_nil]
    exact recorded.kind past d kind start
  | raise event =>
    rw [stepRecord, List.append_nil]
    exact recorded.pending past d _ start
  | refreshTable =>
    rw [stepRecord, List.append_nil]
    exact recorded.refresh past d start

theorem run (recorded : Recorded P) (past : List Occasion) (d : Desk) (steps : List DeskStep)
    (start : P past d) : P (past ++ d.record steps) (d.run steps) := by
  induction steps generalizing past d with
  | nil =>
    rw [record, List.append_nil]
    exact start
  | cons s rest ih =>
    have later := ih _ (d.step s) (recorded.step past d s start)
    rwa [List.append_assoc] at later

end Recorded

theorem reservations_refreshTable (d : Desk) :
    d.refreshTable.register.reservations = d.register.reservations := by
  simp only [refreshTable, Register.drain]
  split <;> rfl

theorem reservations_handle (d : Desk) (event : DeskEvent) :
    (d.handle event).register.reservations =
      d.register.reservations ++ (Occasion.reservation? ⟨d, .handling event⟩).toList := by
  rcases d.handle_cases event with ⟨date, rfl, _, done⟩ | ⟨rfl, _, done⟩ |
    ⟨rfl, shown, _, done⟩ | ⟨date, rfl, free, complete, _, done⟩ |
    ⟨missing, rfl, _, lacks, _, done⟩
  · rw [done, Occasion.reservation?_of_undecided _ (Occasion.decides_pick d date)]
    exact (List.append_nil _).symm
  · rw [done, Occasion.reservation?_of_undecided _ (Occasion.decides_dismiss d)]
    exact (List.append_nil _).symm
  · rw [done, Occasion.reservation?_of_undecided _ (Occasion.decides_of_shown shown)]
    exact (List.append_nil _).symm
  · rw [done, Occasion.reservation?_of_complete ⟨d, .handling .submit⟩ date (by simp [free])
      complete]
    rfl
  · rw [done, Occasion.reservation?_of_lacks ⟨d, .handling .submit⟩ missing lacks]
    exact (List.append_nil _).symm

/-- To the first reservations the register adds what the submissions since have added. -/
theorem reservations_recorded (first : List Reservation) :
    Recorded fun past d =>
      d.register.reservations = first ++ past.filterMap Occasion.reservation? where
  name := by
    intro past d name kept
    have silent := Occasion.reservation?_of_undecided _ (Occasion.decides_naming d name)
    simpa [silent] using kept
  kind := fun _ _ _ kept => kept
  pending := fun _ _ _ kept => kept
  handle := by
    intro past d event kept
    rw [reservations_handle, kept, List.filterMap_append, List.append_assoc]
    cases added : Occasion.reservation? ⟨d, .handling event⟩ <;> simp [added]
  refresh := by
    intro past d kept
    rw [reservations_refreshTable, kept]

end Desk

end BookingDesk
