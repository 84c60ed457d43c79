import BookingDesk.Draft
import BookingDesk.Table

/-!
An office around one register: any number of subscribers, drafts and tables, each
known by a number, and a status line. Drafts and tables are blank until first used.
-/

namespace BookingDesk

open Calendar

structure Office where
  register : Register
  drafts : Nat → Draft
  tables : Nat → Table
  status : String
  journal : List LogEntry

abbrev KindChoice := Except KindRefusal (Option EventKind)

inductive OfficeStep where
  | subscribe
  | unsubscribe (subscriber : Nat)
  | receive (subscriber : Nat)
  | drain (subscriber : Nat)
  | renew
  | submit (name : String) (date : Option Date) (kind : KindChoice)
  | appendAgain (index : Nat)
  | list
  | row (index : Nat)
  | equal (first second : Nat)
  | edit (draft : Nat) (name : Option String) (date : Option (Option Date)) (kind : KindChoice)
  | submitDraft (draft : Nat)
  | attempt (draft : Nat)
  | pump (table subscriber : Nat)
  | announce (table : Nat) (announcement : Announcement)
  | rebuild (table : Nat)
  | rows (table : Nat)

abbrev Submission := Except Missing (Nat × Reservation)

inductive OfficeReply where
  | done
  | subscriber (handle : Nat)
  | delivery (d : Delivery)
  | announcements (all : List Announcement)
  | submission (result : Submission)
  | place (index : Nat)
  | reservations (all : List Reservation)
  | row (cells : Row)
  | verdict (same : Bool)
  | draft (d : Draft)
  | draftSubmission (result : Submission) (d : Draft)
  | attempt (warning : Option Warning) (status : String) (d : Draft)
  | rows (all : List Row)
  | noSuchSubscriber
  | noSuchReservation
  | refusedKind (refusal : KindRefusal)

namespace Office

def opened : Office where
  register := .empty
  drafts := fun _ => .blank
  tables := fun _ => .empty
  status := ""
  journal := []

def put {α : Type} (values : Nat → α) (number : Nat) (value : α) : Nat → α :=
  fun n => if n = number then value else values n

def submission (result : Except Missing Booking) : Submission :=
  result.map fun booking => (booking.index, booking.reservation)

def afterBooking (o : Office) : Except Missing Booking → Office
  | .ok booking =>
    { o with register := booking.register, journal := o.journal ++ booking.log }
  | .error _ => o

def forSubscriber (o : Office) (handle : Nat) (answer : Office × OfficeReply) :
    Office × OfficeReply :=
  if o.register.isListening handle then answer else (o, .noSuchSubscriber)

def forReservation (o : Office) (index : Nat) (answer : Reservation → Office × OfficeReply) :
    Office × OfficeReply :=
  match o.register.reservations[index]? with
  | some b => answer b
  | none => (o, .noSuchReservation)

def showTable (o : Office) (number : Nat) (update : Table × List LogEntry) :
    Office × OfficeReply :=
  ({ o with tables := put o.tables number update.1, journal := o.journal ++ update.2 },
    .rows update.1.rows)

/-- Sets the given fields of a draft; the name and the date are set even if the kind is
refused. -/
def edit (o : Office) (number : Nat) (name : Option String) (date : Option (Option Date))
    (kind : KindChoice) : Office × OfficeReply :=
  let old := o.drafts number
  let dated := { old with name := name.getD old.name, date := date.getD old.date }
  match kind with
  | .error refusal => ({ o with drafts := put o.drafts number dated }, .refusedKind refusal)
  | .ok choice =>
    let new := { dated with kind := choice.getD dated.kind }
    ({ o with drafts := put o.drafts number new }, .draft new)

def step (o : Office) : OfficeStep → Office × OfficeReply
  | .subscribe =>
    ({ o with register := o.register.subscribe }, .subscriber o.register.nextHandle)
  | .unsubscribe handle =>
    o.forSubscriber handle ({ o with register := o.register.unsubscribe handle }, .done)
  | .receive handle =>
    o.forSubscriber handle
      ({ o with register := o.register.receive handle }, .delivery (o.register.delivery handle))
  | .drain handle =>
    o.forSubscriber handle
      ({ o with register := o.register.drain handle }, .announcements (o.register.queue handle))
  | .renew => ({ o with register := o.register.renew }, .done)
  | .submit _ _ (.error refusal) => (o, .refusedKind refusal)
  | .submit name date (.ok kind) =>
    let result := o.register.book ⟨name, date, kind⟩
    (o.afterBooking result, .submission (submission result))
  | .appendAgain index =>
    o.forReservation index fun b =>
      ({ o with
          register := o.register.append b
          journal := o.journal ++ [o.register.appendEntry] }, .place o.register.size)
  | .list => (o, .reservations o.register.reservations)
  | .row index => o.forReservation index fun b => (o, .row b.row)
  | .equal first second =>
    o.forReservation first fun b => o.forReservation second fun c => (o, .verdict (b = c))
  | .edit number name date kind => o.edit number name date kind
  | .submitDraft number =>
    match (o.drafts number).submit o.register with
    | .ok (booking, draft) =>
      ({ o.afterBooking (.ok booking) with drafts := put o.drafts number draft },
        .draftSubmission (submission (.ok booking)) draft)
    | .error missing => (o, .draftSubmission (.error missing) (o.drafts number))
  | .attempt number =>
    let attempt := (o.drafts number).attempt o.register
    ({ o with
        register := attempt.register
        drafts := put o.drafts number attempt.draft
        status := attempt.status
        journal := o.journal ++ attempt.log },
      .attempt attempt.warning attempt.status attempt.draft)
  | .pump number handle =>
    o.forSubscriber handle <|
      { o with register := o.register.drain handle }.showTable number <|
        (o.tables number).applyAll o.register.reservations (o.register.queue handle)
  | .announce number announcement =>
    o.showTable number ((o.tables number).apply o.register.reservations announcement)
  | .rebuild number =>
    o.showTable number
      (.ofReservations o.register.reservations, [.rebuilt o.register.size])
  | .rows number => (o, .rows (o.tables number).rows)

def loggedSince (o earlier : Office) : List LogEntry :=
  o.journal.drop earlier.journal.length

end Office

end BookingDesk
