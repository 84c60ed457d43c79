import BookingDesk.Reservation

/-!
The entries of the log, each with its level, its message and its named fields.
-/

namespace BookingDesk

open Calendar

inductive Level where
  | debug
  | info
  | warn
deriving DecidableEq

def Level.name : Level → String
  | .debug => "DEBUG"
  | .info => "INFO"
  | .warn => "WARN"

inductive LogEntry where
  | appended (index total observers : Nat)
  | submitted (index : Nat) (date : Date) (kind : EventKind)
  | added (index total : Nat)
  | rejected (reason : Missing)
  | rebuilt (total : Nat)
deriving DecidableEq

namespace LogEntry

def level : LogEntry → Level
  | .appended .. => .debug
  | .submitted .. => .debug
  | .added .. => .info
  | .rejected _ => .warn
  | .rebuilt _ => .debug

def message : LogEntry → String
  | .appended .. => "reservation appended"
  | .submitted .. => "reservation submitted"
  | .added .. => "reservation added"
  | .rejected _ => "reservation rejected"
  | .rebuilt _ => "rebuilding reservation rows"

def fields : LogEntry → List (String × Json)
  | .appended index total observers =>
    [("index", .integer index), ("total", .integer total), ("observers", .integer observers)]
  | .submitted index date kind =>
    [("index", .integer index), ("date", .string date.isoText),
      ("event_type", .string kind.label)]
  | .added index total => [("index", .integer index), ("total", .integer total)]
  | .rejected reason => [("reason", .string reason.message)]
  | .rebuilt total => [("total", .integer total)]

def toJson (e : LogEntry) : Json :=
  .object ([("level", .string e.level.name), ("message", .string e.message)] ++ e.fields)

end LogEntry

end BookingDesk
