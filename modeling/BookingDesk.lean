import BookingDesk.Main
import BookingDesk.Office
import BookingDesk.Window
import BookingDesk.Proofs.DeskRun
import BookingDesk.Proofs.Inbox
import BookingDesk.Proofs.TableFollows
import BookingDesk.Proofs.BookedOnce
import BookingDesk.Proofs.ShownIsStored
import BookingDesk.Proofs.OfficeRegister
import BookingDesk.Proofs.SubscriberStream
import BookingDesk.Proofs.Scheduling
import BookingDesk.Proofs.ModalWarning
import BookingDesk.Proofs.RejectedAttempt
import BookingDesk.Proofs.AcceptedRequests
import BookingDesk.Proofs.DeskRecord
import BookingDesk.Proofs.FaithfulJournal
import BookingDesk.Proofs.StatusLine
import BookingDesk.Proofs.PaintedTable
import BookingDesk.Proofs.Utf8Text
import BookingDesk.Proofs.ArgumentReading
import BookingDesk.Proofs.CommandLine
import BookingDesk.Proofs.TableMends
import BookingDesk.Proofs.EventBatch
import BookingDesk.Proofs.Trimming
import BookingDesk.Proofs.LabelReading
import BookingDesk.Proofs.ReservationIdentity
import BookingDesk.Proofs.Observers
import BookingDesk.Proofs.Attendance
import BookingDesk.Proofs.SettledWindow
import BookingDesk.Proofs.NeverStuck
import BookingDesk.Proofs.EnterKey
import BookingDesk.Proofs.FilterResolution
import BookingDesk.Proofs.RecordedKind
import BookingDesk.Proofs.QuotedText
import BookingDesk.Proofs.WindowSize
