import BookingDesk.Register

/-!
What each operation of a register does to an inbox. An inbox changes only by its own
subscriber and by an addition that is announced to it.
-/

namespace BookingDesk

namespace Announcement

/-- The announcements of the reservations from place `first` up to, but without, `last`. -/
def between (first last : Nat) : List Announcement :=
  (List.range' first (last - first)).map fun index => ⟨index, index + 1⟩

theorem between_self (place : Nat) : between place place = [] := by
  simp [between]

theorem between_append (first middle last : Nat) (below : first ≤ middle) (above : middle ≤ last) :
    between first middle ++ between middle last = between first last := by
  have start : first + (middle - first) = middle := by omega
  have total : middle - first + (last - middle) = last - first := by omega
  have parts := List.range'_append_1 (s := first) (m := middle - first) (n := last - middle)
  rw [start, total] at parts
  simp only [between, ← List.map_append, parts]

theorem between_succ (place : Nat) : between place (place + 1) = [⟨place, place + 1⟩] := by
  simp [between]

theorem between_eq_cons (first last : Nat) (below : first < last) :
    between first last = ⟨first, first + 1⟩ :: between (first + 1) last := by
  rw [← between_append first (first + 1) last (by omega) (by omega), between_succ]
  rfl

end Announcement

namespace Register

theorem isListening_lt (r : Register) (handle : Nat) (listening : r.isListening handle = true) :
    handle < r.nextHandle := by
  by_cases inside : handle < r.inboxes.length
  · exact inside
  · have absent : r.inboxes[handle]? = none := List.getElem?_eq_none (by omega)
    simp [isListening, inbox, absent, Inbox.isListening] at listening

theorem queue_of_not_listening (r : Register) (handle : Nat)
    (gone : r.isListening handle = false) : r.queue handle = [] := by
  unfold isListening at gone
  unfold queue
  cases held : r.inbox handle with
  | listening queue => simp [held, Inbox.isListening] at gone
  | left => rfl

theorem inbox_of_listening (r : Register) (handle : Nat) (listening : r.isListening handle = true) :
    r.inbox handle = .listening (r.queue handle) := by
  unfold isListening at listening
  unfold queue
  cases held : r.inbox handle with
  | listening queue => rfl
  | left => simp [held, Inbox.isListening] at listening

theorem inbox_subscribe (r : Register) (handle : Nat) :
    r.subscribe.inbox handle =
      if handle = r.nextHandle then .listening [] else r.inbox handle := by
  by_cases new : handle = r.nextHandle
  · simp [inbox, subscribe, new, nextHandle]
  · simp only [inbox, subscribe, if_neg new]
    by_cases old : handle < r.inboxes.length
    · rw [List.getElem?_append_left old]
    · have beyond : r.inboxes.length + 1 ≤ handle := by
        unfold nextHandle at new
        omega
      rw [List.getElem?_eq_none (by simpa using beyond), List.getElem?_eq_none (by omega)]

theorem inbox_set (r : Register) (changed handle : Nat) (value : Inbox)
    (inside : changed < r.nextHandle) :
    { r with inboxes := r.inboxes.set changed value }.inbox handle =
      if handle = changed then value else r.inbox handle := by
  unfold nextHandle at inside
  by_cases same : handle = changed
  · subst same
    simp [inbox, inside]
  · simp [inbox, List.getElem?_set_ne (Ne.symm same), same]

theorem inbox_append (r : Register) (b : Reservation) (handle : Nat) :
    (r.append b).inbox handle =
      if handle ∈ r.observers then (r.inbox handle).deliver r.nextAnnouncement
      else r.inbox handle := by
  by_cases inside : handle < r.inboxes.length
  · by_cases observing : handle ∈ r.observers
    · simp [inbox, append, inside, observing]
    · simp [inbox, append, inside, observing]
  · have absent : r.inboxes[handle]? = none := List.getElem?_eq_none (by omega)
    simp [inbox, append, absent, Inbox.deliver]

theorem isListening_subscribe (r : Register) (handle : Nat) :
    r.subscribe.isListening handle = (decide (handle = r.nextHandle) || r.isListening handle) := by
  by_cases new : handle = r.nextHandle
  · simp [isListening, inbox_subscribe, new, Inbox.isListening]
  · simp [isListening, inbox_subscribe, new]

theorem queue_subscribe (r : Register) (handle : Nat) :
    r.subscribe.queue handle = r.queue handle := by
  by_cases new : handle = r.nextHandle
  · have unknown : r.isListening handle = false := by
      cases known : r.isListening handle with
      | false => rfl
      | true =>
        have inside := r.isListening_lt handle known
        omega
    rw [r.queue_of_not_listening handle unknown]
    simp [queue, inbox_subscribe, new, Inbox.queue]
  · simp [queue, inbox_subscribe, new]

theorem isListening_unsubscribe_self (r : Register) (leaver : Nat) :
    (r.unsubscribe leaver).isListening leaver = false := by
  by_cases inside : leaver < r.inboxes.length
  · simp [isListening, inbox, unsubscribe, inside, Inbox.isListening]
  · simp [isListening, inbox, unsubscribe, inside, Inbox.isListening]

theorem isListening_unsubscribe_of_ne (r : Register) (leaver handle : Nat)
    (other : handle ≠ leaver) :
    (r.unsubscribe leaver).isListening handle = r.isListening handle := by
  simp [isListening, inbox, unsubscribe, List.getElem?_set_ne (Ne.symm other)]

theorem queue_unsubscribe_of_ne (r : Register) (leaver handle : Nat) (other : handle ≠ leaver) :
    (r.unsubscribe leaver).queue handle = r.queue handle := by
  simp [queue, inbox, unsubscribe, List.getElem?_set_ne (Ne.symm other)]

theorem isListening_read (r : Register) (reader handle : Nat) (rest : List Announcement)
    (listening : r.isListening reader = true) :
    { r with inboxes := r.inboxes.set reader (.listening rest) }.isListening handle =
      r.isListening handle := by
  have inside := r.isListening_lt reader listening
  by_cases same : handle = reader
  · subst same
    rw [listening]
    simp [isListening, inbox_set r handle handle _ inside, Inbox.isListening]
  · simp [isListening, inbox_set r reader handle _ inside, same]

theorem queue_read (r : Register) (reader handle : Nat) (rest : List Announcement)
    (listening : r.isListening reader = true) :
    { r with inboxes := r.inboxes.set reader (.listening rest) }.queue handle =
      if handle = reader then rest else r.queue handle := by
  have inside := r.isListening_lt reader listening
  by_cases same : handle = reader
  · subst same
    simp [queue, inbox_set r handle handle _ inside, Inbox.queue]
  · simp [queue, inbox_set r reader handle _ inside, same]

theorem receive_frame (r : Register) (handle : Nat) :
    (r.receive handle).reservations = r.reservations ∧
      (r.receive handle).observers = r.observers ∧
      (r.receive handle).nextHandle = r.nextHandle := by
  unfold receive
  split <;> simp [nextHandle]

theorem drain_frame (r : Register) (handle : Nat) :
    (r.drain handle).reservations = r.reservations ∧
      (r.drain handle).observers = r.observers ∧
      (r.drain handle).nextHandle = r.nextHandle := by
  unfold drain
  split <;> simp [nextHandle]

theorem receive_of_not_listening (r : Register) (handle : Nat)
    (gone : r.isListening handle = false) : r.receive handle = r := by
  simp [receive, gone]

theorem drain_of_not_listening (r : Register) (handle : Nat)
    (gone : r.isListening handle = false) : r.drain handle = r := by
  simp [drain, gone]

theorem isListening_receive (r : Register) (reader handle : Nat) :
    (r.receive reader).isListening handle = r.isListening handle := by
  unfold receive
  split
  · exact r.isListening_read reader handle _ ‹_›
  · rfl

theorem queue_receive (r : Register) (reader handle : Nat) :
    (r.receive reader).queue handle =
      if handle = reader then (r.queue handle).tail else r.queue handle := by
  unfold receive
  split
  · rw [r.queue_read reader handle _ ‹_›]
    split
    · rename_i same
      rw [same]
    · rfl
  · rename_i gone
    split
    · rename_i same
      rw [same, r.queue_of_not_listening reader (by simpa using gone)]
      rfl
    · rfl

theorem isListening_drain (r : Register) (reader handle : Nat) :
    (r.drain reader).isListening handle = r.isListening handle := by
  unfold drain
  split
  · exact r.isListening_read reader handle _ ‹_›
  · rfl

theorem queue_drain (r : Register) (reader handle : Nat) :
    (r.drain reader).queue handle = if handle = reader then [] else r.queue handle := by
  unfold drain
  split
  · exact r.queue_read reader handle _ ‹_›
  · rename_i gone
    split
    · rename_i same
      rw [same, r.queue_of_not_listening reader (by simpa using gone)]
    · rfl

theorem isListening_append (r : Register) (b : Reservation) (handle : Nat) :
    (r.append b).isListening handle = r.isListening handle := by
  unfold isListening
  rw [inbox_append]
  split
  · cases r.inbox handle with
    | listening queue => rfl
    | left => rfl
  · rfl

theorem drain_of_listening (r : Register) (handle : Nat)
    (listening : r.isListening handle = true) :
    r.drain handle = { r with inboxes := r.inboxes.set handle (.listening []) } :=
  if_pos listening

theorem drain_drain (r : Register) (handle : Nat) :
    (r.drain handle).drain handle = r.drain handle := by
  cases listening : r.isListening handle with
  | true =>
    have still : (r.drain handle).isListening handle = true := by
      rw [isListening_drain, listening]
    rw [drain_of_listening _ handle still, r.drain_of_listening handle listening, List.set_set]
  | false =>
    rw [r.drain_of_not_listening handle listening, r.drain_of_not_listening handle listening]

theorem queue_append_of_mem (r : Register) (b : Reservation) (handle : Nat)
    (observing : handle ∈ r.observers) (listening : r.isListening handle = true) :
    (r.append b).queue handle = r.queue handle ++ [r.nextAnnouncement] := by
  have held := r.inbox_of_listening handle listening
  unfold queue at held ⊢
  rw [inbox_append, if_pos observing, held]
  rfl

theorem queue_append_of_not_mem (r : Register) (b : Reservation) (handle : Nat)
    (absent : handle ∉ r.observers) : (r.append b).queue handle = r.queue handle := by
  simp only [queue, inbox_append, if_neg absent]

theorem liveObservers_drain (r : Register) (handle : Nat) :
    (r.drain handle).liveObservers = r.liveObservers := by
  have same : (r.drain handle).isListening = r.isListening := by
    funext other
    exact r.isListening_drain handle other
  rw [liveObservers, same, (r.drain_frame handle).2.1, liveObservers]

theorem appendEntry_drain (r : Register) (handle : Nat) :
    (r.drain handle).appendEntry = r.appendEntry := by
  rw [appendEntry, liveObservers_drain, size, (r.drain_frame handle).1, ← size, appendEntry]

/-- Emptying an inbox before an addition makes no difference once it is emptied after it. -/
theorem drain_append_drain (r : Register) (b : Reservation) (handle : Nat) :
    ((r.drain handle).append b).drain handle = (r.append b).drain handle := by
  cases listening : r.isListening handle with
  | true =>
    have early : ((r.drain handle).append b).isListening handle = true := by
      rw [isListening_append, isListening_drain, listening]
    have late : (r.append b).isListening handle = true := by
      rw [isListening_append, listening]
    have observers := r.liveObservers_drain handle
    rw [drain_of_listening _ handle early, drain_of_listening _ handle late]
    simp only [append, observers, nextAnnouncement, size]
    simp only [r.drain_of_listening handle listening, List.mapIdx_set, List.set_set]
  | false => rw [r.drain_of_not_listening handle listening]

end Register

end BookingDesk
