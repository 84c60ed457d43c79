import BookingDesk.Proofs.TableFollows

/-!
It does not matter when a desk gets round to its work. Events may be handled one by one
or all together, and the table may be refreshed in between as often as one likes: once
everything is done the desk is the same, down to its journal.
-/

namespace BookingDesk

open Calendar

inductive Chore where
  | handleEvents
  | refreshTable
deriving DecidableEq

def Chore.step : Chore → DeskStep
  | .handleEvents => .handleEvents
  | .refreshTable => .refreshTable

/-- Events that are raised together, and the work that is done before the next ones. -/
structure Batch where
  events : List DeskEvent
  chores : List Chore
deriving DecidableEq

def Batch.steps (b : Batch) : List DeskStep :=
  b.events.map .raise ++ b.chores.map Chore.step

namespace Desk

theorem pending_handleAll (d : Desk) (events : List DeskEvent) :
    (events.foldl handle d).pending = d.pending := by
  induction events generalizing d with
  | nil => rfl
  | cons event rest ih =>
    rw [List.foldl_cons, ih]
    rcases d.handle_cases event with ⟨date, _, _, done⟩ | ⟨_, _, done⟩ | ⟨_, _, _, done⟩ |
      ⟨date, _, _, _, _, done⟩ | ⟨missing, _, _, _, _, done⟩ <;> rw [done] <;> rfl

theorem pending_handleEvents (d : Desk) : d.handleEvents.pending = [] :=
  pending_handleAll _ d.pending

theorem pending_tick (d : Desk) : d.tick.pending = [] :=
  d.pending_handleEvents

theorem run_raise (d : Desk) (events : List DeskEvent) :
    d.run (events.map .raise) = { d with pending := d.pending ++ events } := by
  induction events generalizing d with
  | nil => simp [run]
  | cons event rest ih =>
    have later := ih (d.raise event)
    simp only [raise, List.append_assoc] at later
    exact later

/-- Events that come after others have been handled fare as if all had waited together. -/
theorem handleEvents_raised_later (d : Desk) (events : List DeskEvent) :
    (d.handleEvents.run (events.map .raise)).handleEvents =
      (d.run (events.map .raise)).handleEvents := by
  have cleared : { d.handleEvents with pending := [] } = d.handleEvents := by
    rw [← d.pending_handleEvents]
  rw [run_raise, run_raise, pending_handleEvents]
  simp only [handleEvents, List.nil_append, List.foldl_append] at cleared ⊢
  rw [cleared]

theorem refreshTable_refreshTable (d : Desk) (inStep : InStep d) :
    d.refreshTable.refreshTable = d.refreshTable := by
  rw [refreshTable_of_inStep _ (inStep_stable.refresh [] d inStep), reservations_refreshTable,
    refreshTable_of_inStep d inStep, Register.drain_drain]

theorem booked_refreshTable (d : Desk) (date : Date) (inStep : InStep d)
    (early : InStep (d.refreshTable.booked date)) (late : InStep (d.booked date)) :
    (d.refreshTable.booked date).refreshTable = (d.booked date).refreshTable := by
  have same := (d.register.drain_frame feed).1
  have size := congrArg List.length same
  have stored := congrArg (· ++ [d.draft.reservation date]) same
  rw [refreshTable_of_inStep _ early, refreshTable_of_inStep _ late]
  simp only [booked, refreshTable_of_inStep d inStep, Register.drain_append_drain,
    Register.appendEntry_drain]
  simp only [Register.append, Register.size, size, stored]

/-- Whether the table is up to date when an event is handled does not show afterwards. -/
theorem handle_refreshTable (d : Desk) (event : DeskEvent) (inStep : InStep d) :
    (d.refreshTable.handle event).refreshTable = (d.handle event).refreshTable := by
  have early := inStep_stable.handle [] _ event (inStep_stable.refresh [] d inStep)
  have late := inStep_stable.handle [] d event inStep
  -- All but a booking can change places with the refreshing.
  have swapped (moved : d.refreshTable.handle event = (d.handle event).refreshTable) :
      (d.refreshTable.handle event).refreshTable = (d.handle event).refreshTable := by
    rw [moved, refreshTable_refreshTable _ late]
  have allowed (submits : event = .submit) (free : d.warning = none) :
      d.refreshTable.handle event = d.refreshTable.submit := by
    simp [submits, handle, refreshTable, free]
  rcases d.handle_cases event with ⟨date, rfl, _, _⟩ | ⟨rfl, _, _⟩ | ⟨rfl, shown, _, done⟩ |
    ⟨date, rfl, free, complete, _, done⟩ | ⟨missing, rfl, free, lacks, _, done⟩
  · exact swapped rfl
  · exact swapped rfl
  · apply swapped
    rw [done]
    exact if_pos shown
  · have booked := (allowed rfl free).trans (d.refreshTable.submit_of_complete date complete)
    rw [booked] at early ⊢
    rw [done] at late ⊢
    exact booked_refreshTable d date inStep early late
  · apply swapped
    rw [done] at late ⊢
    rw [allowed rfl free, d.refreshTable.submit_of_lacks missing lacks,
      refreshTable_of_inStep _ late, refreshTable_of_inStep d inStep]
    rfl

theorem handleAll_refreshTable (d : Desk) (events : List DeskEvent) (inStep : InStep d) :
    (events.foldl handle d.refreshTable).refreshTable =
      (events.foldl handle d).refreshTable := by
  induction events generalizing d with
  | nil => exact refreshTable_refreshTable d inStep
  | cons event rest ih =>
    -- A refreshing is put in after the first event, where it meets the earlier one.
    have early := inStep_stable.handle [] _ event (inStep_stable.refresh [] d inStep)
    have late := inStep_stable.handle [] d event inStep
    calc (rest.foldl handle (d.refreshTable.handle event)).refreshTable
      _ = (rest.foldl handle (d.refreshTable.handle event).refreshTable).refreshTable :=
        (ih _ early).symm
      _ = (rest.foldl handle (d.handle event).refreshTable).refreshTable := by
        rw [handle_refreshTable d event inStep]
      _ = (rest.foldl handle (d.handle event)).refreshTable := ih _ late

theorem tick_chore (d : Desk) (chore : Chore) (events : List DeskEvent) (inStep : InStep d) :
    ((d.step chore.step).run (events.map .raise)).tick = (d.run (events.map .raise)).tick := by
  cases chore with
  | handleEvents => exact congrArg refreshTable (d.handleEvents_raised_later events)
  | refreshTable =>
    have moved : (d.step .refreshTable).run (events.map .raise) =
        (d.run (events.map .raise)).refreshTable := by
      rw [run_raise, run_raise]
      rfl
    have waiting := inStep_stable.run [] d (events.map .raise) inStep
    rw [Chore.step, moved]
    exact handleAll_refreshTable _ _ (inStep_stable.pending [] _ [] waiting)

theorem tick_chores (d : Desk) (chores : List Chore) (events : List DeskEvent)
    (inStep : InStep d) :
    ((d.run (chores.map Chore.step)).run (events.map .raise)).tick =
      (d.run (events.map .raise)).tick := by
  induction chores generalizing d with
  | nil => rfl
  | cons chore rest ih =>
    have later := inStep_stable.step [] d chore.step inStep
    exact (ih (d.step chore.step) later).trans (d.tick_chore chore events inStep)

theorem tick_batches (d : Desk) (batches : List Batch) (inStep : InStep d) :
    (d.run (batches.flatMap Batch.steps)).tick =
      (d.run ((batches.flatMap Batch.events).map .raise)).tick := by
  induction batches generalizing d with
  | nil => rfl
  | cons first rest ih =>
    have raised := inStep_stable.run [] d (first.events.map .raise) inStep
    have worked := inStep_stable.run [] _ (first.chores.map Chore.step) raised
    calc (d.run (first.steps ++ rest.flatMap Batch.steps)).tick
      _ = (((d.run (first.events.map .raise)).run (first.chores.map Chore.step)).run
            (rest.flatMap Batch.steps)).tick := by rw [run_append, Batch.steps, run_append]
      _ = (((d.run (first.events.map .raise)).run (first.chores.map Chore.step)).run
            ((rest.flatMap Batch.events).map .raise)).tick := ih _ worked
      _ = ((d.run (first.events.map .raise)).run
            ((rest.flatMap Batch.events).map .raise)).tick := tick_chores _ _ _ raised
      _ = (d.run ((first.events ++ rest.flatMap Batch.events).map .raise)).tick := by
        rw [List.map_append, run_append]

theorem tick_tick (d : Desk) (inStep : InStep d) : d.tick.tick = d.tick := by
  have handled : d.tick.handleEvents = d.tick := handleEvents_of_pending_nil _ d.pending_tick
  have refreshed : d.tick.refreshTable = d.tick :=
    refreshTable_refreshTable _ (inStep_stable.handleEvents [] d inStep)
  rw [tick, handled, refreshed]

/-- Whatever was done before, events that come in batches, with any work in between, lead
to the same desk and the same journal as when all of them come at once; and a further
frame changes nothing. -/
theorem batches_as_at_once (today : Date) (steps : List WindowStep) (batches : List Batch) :
    let d := ((Window.opened today).run steps).desk
    let atOnce := (d.run ((batches.flatMap Batch.events).map .raise)).handleEvents.refreshTable
    (d.run (batches.flatMap Batch.steps)).handleEvents.refreshTable = atOnce ∧
    atOnce.pending = [] ∧
    atOnce.tick = atOnce ∧
    ∀ w : Window, ({ w with desk := atOnce }.perform .frame).window.desk = atOnce := by
  intro d atOnce
  have inStep : InStep d :=
    Window.run_recorded inStep_stable (Window.opened today) steps (opened_inStep today)
  have still : atOnce.tick = atOnce := tick_tick _ (inStep_stable.run [] d _ inStep)
  refine ⟨tick_batches d batches inStep, pending_tick _, still, ?_⟩
  intro w
  show atOnce.tick.tick = atOnce
  rw [still, still]

end Desk

end BookingDesk
