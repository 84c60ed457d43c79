import BookingDesk.Journal

/-!
The register of reservations and its subscribers. Reservations are only ever added
at the end. Each addition is announced to the observers, in the order in which they
subscribed, and the observers that no longer listen are struck off on that occasion.

A subscriber is known by its handle, the place of its inbox; handles are never
given out twice, not even after the register has been replaced by a new one.
-/

namespace BookingDesk

/-- Tells of the reservation at `index`, which made the register `total` long. -/
structure Announcement where
  index : Nat
  total : Nat
deriving DecidableEq

/-- The receiving end of a subscription: the announcements not read yet, or nothing
once the subscriber has left. -/
inductive Inbox where
  | listening (queue : List Announcement)
  | left
deriving DecidableEq

namespace Inbox

def isListening : Inbox → Bool
  | .listening _ => true
  | .left => false

def queue : Inbox → List Announcement
  | .listening queue => queue
  | .left => []

def deliver (a : Announcement) : Inbox → Inbox
  | .listening queue => .listening (queue ++ [a])
  | .left => .left

end Inbox

structure Register where
  reservations : List Reservation
  observers : List Nat
  inboxes : List Inbox
deriving DecidableEq

inductive Delivery where
  | announcement (a : Announcement)
  | empty
  | disconnected
deriving DecidableEq

structure Booking where
  register : Register
  index : Nat
  reservation : Reservation
  log : List LogEntry

namespace Register

def empty : Register := ⟨[], [], []⟩

def size (r : Register) : Nat :=
  r.reservations.length

def inbox (r : Register) (handle : Nat) : Inbox :=
  (r.inboxes[handle]?).getD .left

def isListening (r : Register) (handle : Nat) : Bool :=
  (r.inbox handle).isListening

def queue (r : Register) (handle : Nat) : List Announcement :=
  (r.inbox handle).queue

def nextHandle (r : Register) : Nat :=
  r.inboxes.length

def subscribe (r : Register) : Register :=
  { r with
    observers := r.observers ++ [r.nextHandle]
    inboxes := r.inboxes ++ [.listening []] }

/-- The subscriber leaves; the next announcement will find it gone. -/
def unsubscribe (r : Register) (handle : Nat) : Register :=
  { r with inboxes := r.inboxes.set handle .left }

/-- A new register without reservations and observers; the inboxes of those of the
old one keep what they hold. -/
def renew (r : Register) : Register :=
  { r with reservations := [], observers := [] }

def liveObservers (r : Register) : List Nat :=
  r.observers.filter r.isListening

def nextAnnouncement (r : Register) : Announcement :=
  ⟨r.size, r.size + 1⟩

def append (r : Register) (b : Reservation) : Register where
  reservations := r.reservations ++ [b]
  observers := r.liveObservers
  inboxes := r.inboxes.mapIdx fun handle inbox =>
    if handle ∈ r.observers then inbox.deliver r.nextAnnouncement else inbox

def appendEntry (r : Register) : LogEntry :=
  .appended r.size (r.size + 1) r.liveObservers.length

def book (r : Register) (q : Request) : Except Missing Booking :=
  q.check.map fun b =>
    { register := r.append b
      index := r.size
      reservation := b
      log := [r.appendEntry, .submitted r.size b.date b.kind] }

/-- What one look into the inbox finds. With nothing queued the subscriber is still
connected as long as the register has it among its observers. -/
def delivery (r : Register) (handle : Nat) : Delivery :=
  match r.queue handle with
  | a :: _ => .announcement a
  | [] => if handle ∈ r.observers then .empty else .disconnected

def receive (r : Register) (handle : Nat) : Register :=
  if r.isListening handle then
    { r with inboxes := r.inboxes.set handle (.listening (r.queue handle).tail) }
  else r

def drain (r : Register) (handle : Nat) : Register :=
  if r.isListening handle then
    { r with inboxes := r.inboxes.set handle (.listening []) }
  else r

def rows (r : Register) : List Row :=
  r.reservations.map Reservation.row

theorem size_append (r : Register) (b : Reservation) : (r.append b).size = r.size + 1 := by
  simp [size, append]

end Register

end BookingDesk
