import BookingDesk.Proofs.AcceptedRequests
import BookingDesk.Proofs.TableFollows

/-!
A table mends itself. Whatever announcements reach it, lost, repeated, out of order or
made up, it goes on to show the first reservations of its register and never fewer than
before; and any announcement of the last reservation, or of one beyond, completes it.
-/

namespace BookingDesk

theorem Announcement.getLast?_between (first last : Nat) (below : first < last) :
    (between first last).getLast? = some ⟨last - 1, last⟩ := by
  have next : last - 1 + 1 = last := by omega
  have one : between (last - 1) last = [⟨last - 1, last⟩] := by
    have single := between_succ (last - 1)
    rwa [next] at single
  rw [← between_append first (last - 1) last (by omega) (by omega), one]
  exact List.getLast?_concat

namespace Table

structure ShowsFirst (t : Table) (reservations : List Reservation) (count : Nat) : Prop where
  within : count ≤ reservations.length
  rows : t.rows = (reservations.take count).map Reservation.row

theorem ShowsFirst.of_rows {t : Table} {reservations : List Reservation} {shown : Nat}
    (rows : t.rows = (reservations.take shown).map Reservation.row) :
    t.ShowsFirst reservations (min shown reservations.length) :=
  ⟨Nat.min_le_right _ _, by rw [rows, ← List.take_eq_take_min]⟩

namespace ShowsFirst

variable {t : Table} {reservations : List Reservation} {count : Nat}

theorem length_rows (shows : t.ShowsFirst reservations count) : t.rows.length = count := by
  rw [shows.rows, List.length_map, List.length_take, Nat.min_eq_left shows.within]

theorem append (shows : t.ShowsFirst reservations count) (more : List Reservation) :
    t.ShowsFirst (reservations ++ more) count where
  within := by
    have within := shows.within
    rw [List.length_append]
    omega
  rows := by rw [shows.rows, List.take_append_of_le_length shows.within]

theorem rows_of_full (shows : t.ShowsFirst reservations reservations.length) :
    t.rows = reservations.map Reservation.row := by
  rw [shows.rows, List.take_length]

theorem rows_prefix {u : Table} {later : Nat} (shows : t.ShowsFirst reservations count)
    (shown : u.ShowsFirst reservations later) (grown : count ≤ later) : t.rows <+: u.rows := by
  rw [shows.rows, shown.rows]
  exact (List.take_prefix_take_left grown).map _

/-- All that an announcement can do to a table that shows the first reservations. -/
theorem apply (shows : t.ShowsFirst reservations count) (a : Announcement) :
    ∃ later, (t.apply reservations a).1.ShowsFirst reservations later ∧ count ≤ later ∧
      (count < reservations.length → count < later) ∧
      (reservations.length ≤ a.index + 1 → later = reservations.length) := by
  have within := shows.within
  by_cases next : count = a.index ∧ a.index < reservations.length
  · obtain ⟨rfl, more⟩ := next
    have added : t.apply reservations a =
        (⟨(reservations.take (a.index + 1)).map Reservation.row⟩, []) :=
      apply_next t reservations a.index shows.rows more
    rw [added]
    exact ⟨a.index + 1, ⟨more, rfl⟩, by omega, by omega, by omega⟩
  · have unusable : t.nextRow? reservations a = none := by
      rw [nextRow?, shows.length_rows]
      split
      · rename_i same
        exact List.getElem?_eq_none (by omega)
      · rfl
    have anew : t.apply reservations a =
        (ofReservations reservations, [.rebuilt reservations.length]) := by
      rw [Table.apply, unusable]
    rw [anew]
    refine ⟨reservations.length, ⟨Nat.le_refl _, ?_⟩, within, id, fun _ => rfl⟩
    rw [List.take_length, ofReservations]

/-- Announcements that come one after the other complete the table if one of them is of
the last reservation or of one beyond. -/
theorem applyAll (shows : t.ShowsFirst reservations count) (announcements : List Announcement) :
    ∃ later, (t.applyAll reservations announcements).1.ShowsFirst reservations later ∧
      count ≤ later ∧
      ((∃ a ∈ announcements, reservations.length ≤ a.index + 1) →
        later = reservations.length) := by
  induction announcements generalizing t count with
  | nil => exact ⟨count, shows, Nat.le_refl _, by simp⟩
  | cons first rest ih =>
    obtain ⟨between, shown, grown, _, completes⟩ := shows.apply first
    obtain ⟨later, last, more, finishes⟩ := ih shown
    refine ⟨later, last, Nat.le_trans grown more, ?_⟩
    rintro ⟨a, member, reaches⟩
    rcases List.mem_cons.mp member with rfl | behind
    · -- The table is complete now, and what follows does not shorten it.
      have full := completes reaches
      have within := last.within
      omega
    · exact finishes ⟨a, behind, reaches⟩

end ShowsFirst

end Table

structure Display where
  register : Register
  table : Table
deriving DecidableEq

/-- What can befall a display: its table is told something, true or not, or a reservation
is added to its register. -/
inductive Incident where
  | told (a : Announcement)
  | added (b : Reservation)
deriving DecidableEq

namespace Display

def step (d : Display) : Incident → Display
  | .told a => { d with table := (d.table.apply d.register.reservations a).1 }
  | .added b => { d with register := d.register.append b }

def run (d : Display) (incidents : List Incident) : Display :=
  incidents.foldl step d

theorem step_showsFirst (d : Display) (incident : Incident) (count : Nat)
    (shows : d.table.ShowsFirst d.register.reservations count) :
    ∃ later, (d.step incident).table.ShowsFirst (d.step incident).register.reservations later := by
  cases incident with
  | told a =>
    obtain ⟨later, shown, _⟩ := shows.apply a
    exact ⟨later, shown⟩
  | added b => exact ⟨count, shows.append [b]⟩

theorem run_showsFirst (d : Display) (incidents : List Incident) (count : Nat)
    (shows : d.table.ShowsFirst d.register.reservations count) :
    ∃ later, (d.run incidents).table.ShowsFirst (d.run incidents).register.reservations later := by
  induction incidents generalizing d count with
  | nil => exact ⟨count, shows⟩
  | cons incident rest ih =>
    obtain ⟨later, shown⟩ := d.step_showsFirst incident count shows
    exact ih (d.step incident) later shown

theorem run_told (d : Display) (announcements : List Announcement) :
    d.run (announcements.map .told) =
      { d with table := (d.table.applyAll d.register.reservations announcements).1 } := by
  induction announcements generalizing d with
  | nil => rfl
  | cons a rest ih => exact ih (d.step (.told a))

end Display

namespace Office

open OfficeStep Register

/-- What waits for a subscriber that has not lost its register ends with the latest
addition. -/
theorem latest_mem_queue (o : Office) (after : List OfficeStep) (lasts : .renew ∉ after)
    (present : .unsubscribe o.register.nextHandle ∉ after)
    (unread : ((o.step .subscribe).1.run after).register.queue o.register.nextHandle ≠ []) :
    ∃ a ∈ ((o.step .subscribe).1.run after).register.queue o.register.nextHandle,
      ((o.step .subscribe).1.run after).register.size = a.index + 1 := by
  have stays : ∀ s ∈ after, s.isLeave o.register.nextHandle = false := by
    intro s member
    cases s with
    | unsubscribe handle =>
      simp only [isLeave, beq_eq_false_iff_ne]
      intro same
      exact present (same ▸ member)
    | _ => rfl
  have fresh : (o.step .subscribe).1.register.queue o.register.nextHandle = [] := by
    simp [Office.step, queue, inbox_subscribe, Inbox.queue]
  obtain ⟨_, grown, all⟩ := run_connected (o.step .subscribe).1 after o.register.nextHandle stays
    (isRenewal_of_not_mem after lasts) o.register.connected_subscribe
  rw [fresh, List.nil_append] at all
  generalize (o.step .subscribe).1.run after = now at unread grown all ⊢
  -- What was read and what waits are all announcements since; the last of them waits.
  have more : (o.step .subscribe).1.register.size < now.register.size := by
    rcases Nat.lt_or_eq_of_le grown with less | same
    · exact less
    · rw [same, Announcement.between_self] at all
      exact absurd (List.append_eq_nil_iff.mp all).2 unread
  have last := Announcement.getLast?_between _ _ more
  rw [← all, List.getLast?_append, List.getLast?_eq_some_getLast unread, Option.some_or,
    Option.some.injEq] at last
  refine ⟨_, List.getLast_mem unread, ?_⟩
  rw [last, Nat.sub_add_cancel (by omega)]

theorem step_pump (o : Office) (number subscriber : Nat)
    (listening : o.register.isListening subscriber = true) :
    let update := (o.tables number).applyAll o.register.reservations
      (o.register.queue subscriber)
    (o.step (.pump number subscriber)).1.tables number = update.1 ∧
      (o.step (.pump number subscriber)).2 = .rows update.1.rows := by
  simp [Office.step, forSubscriber, listening, showTable, put]

end Office

namespace Table

/-- Whatever a table is told and whatever is added to its register in between, it shows
the first reservations. No announcement shortens it, each one lengthens it as long as it
is behind, and one of the last reservation or of one beyond completes it. So a subscriber
that came late, or has read in part, completes any such table with what waits for it, as
long as something does. -/
theorem table_mends_itself :
    (∀ (d : Display) (shown : Nat) (incidents : List Incident),
      d.table.rows = (d.register.reservations.take shown).map Reservation.row →
      let now := d.run incidents
      (∃ count ≤ now.register.size,
        now.table.rows = (now.register.reservations.take count).map Reservation.row) ∧
      (∀ a : Announcement,
        let after := now.step (.told a)
        now.table.rows <+: after.table.rows ∧
        (now.table.rows.length < now.register.size →
          now.table.rows.length < after.table.rows.length) ∧
        (now.register.size ≤ a.index + 1 →
          after.table.rows = now.register.reservations.map Reservation.row)) ∧
      ∀ queue : List Announcement, (∃ a ∈ queue, now.register.size ≤ a.index + 1) →
        (now.run (queue.map .told)).table.rows =
          now.register.reservations.map Reservation.row) ∧
    ∀ (o : Office) (after : List OfficeStep) (number shown : Nat),
      let subscriber := o.register.nextHandle
      let now := (o.step .subscribe).1.run after
      .renew ∉ after → .unsubscribe subscriber ∉ after → now.register.queue subscriber ≠ [] →
      (now.tables number).rows = (now.register.reservations.take shown).map Reservation.row →
      let rows := now.register.reservations.map Reservation.row
      ((now.step (.pump number subscriber)).1.tables number).rows = rows ∧
        (now.step (.pump number subscriber)).2 = .rows rows := by
  constructor
  · intro d shown incidents rows now
    obtain ⟨count, shows⟩ := d.run_showsFirst incidents _ (.of_rows rows)
    refine ⟨⟨count, shows.within, shows.rows⟩, ?_, ?_⟩
    · intro a after
      obtain ⟨later, told, grown, lengthens, completes⟩ := shows.apply a
      refine ⟨shows.rows_prefix told grown, ?_, ?_⟩
      · intro behind
        have before : now.table.rows.length = count := shows.length_rows
        have longer : after.table.rows.length = later := told.length_rows
        rw [before] at behind ⊢
        rw [longer]
        exact lengthens behind
      · intro reaches
        exact (completes reaches ▸ told).rows_of_full
    · intro queue reaches
      obtain ⟨later, told, _, completes⟩ := shows.applyAll queue
      rw [now.run_told queue]
      exact (completes reaches ▸ told).rows_of_full
  · intro o after number shown subscriber now lasts present unread rows all
    have listening : now.register.isListening subscriber = true := by
      rw [← Bool.not_eq_false]
      intro gone
      exact unread (now.register.queue_of_not_listening subscriber gone)
    obtain ⟨a, waiting, latest⟩ := o.latest_mem_queue after lasts present unread
    obtain ⟨later, told, _, completes⟩ :=
      (ShowsFirst.of_rows rows).applyAll (now.register.queue subscriber)
    have full := (completes ⟨a, waiting, Nat.le_of_eq latest⟩ ▸ told).rows_of_full
    obtain ⟨table, reply⟩ := now.step_pump number subscriber listening
    rw [table, reply, full]
    exact ⟨rfl, rfl⟩

/-- A table of one reservation is told of a fifth, of the first again and of the second
with a wrong total, while two more are added; then a subscriber that came after the first
reservation and has read one announcement completes a table that was never told anything. -/
theorem behind_by_two_is_completed :
    let day : Calendar.Date := ⟨2025, 6, 14, by decide⟩
    let booking : String → Reservation := fun client => ⟨client, day, .wedding⟩
    let register := Register.empty.append (booking "Alice")
    let d : Display := ⟨register, .ofReservations register.reservations⟩
    let incidents : List Incident := [.told ⟨4, 5⟩, .added (booking "Bob"), .told ⟨0, 1⟩,
      .told ⟨1, 9⟩, .added (booking "Carla"), .added (booking "Dana")]
    let after : List OfficeStep := [.submit "Bob" (some day) (.ok none), .receive 0,
      .submit " " (some day) (.ok none), .submit "Carla" (some day) (.ok none)]
    let now := (({ Office.opened with register := register }.step .subscribe).1.run after)
    (d.run incidents).table.rows.length = 2 ∧
      (d.run (incidents ++ [.told ⟨3, 0⟩])).table.rows =
        (d.run incidents).register.reservations.map Reservation.row ∧
      now.register.size = 3 ∧ (now.tables 7).rows = [] ∧
      ((now.step (.pump 7 0)).1.tables 7).rows =
        now.register.reservations.map Reservation.row := by
  intro day booking register d incidents after now
  have mended := (table_mends_itself.1 d 1 incidents (by decide)).2.1 ⟨3, 0⟩
  have pumped := table_mends_itself.2 { Office.opened with register := register } after 7 0
    (by simp [after]) (by simp [after]) (by decide) (by decide)
  -- The subscriber is the first one, known as 0.
  have handle : register.nextHandle = 0 := rfl
  simp only [handle] at pumped
  refine ⟨by decide, ?_, by decide, by decide, ?_⟩
  · exact mended.2.2 (by decide)
  · simp only [now]
    exact pumped.1

end Table

end BookingDesk
