import BookingDesk.Json
import BookingDesk.Text.Blank
import BookingDesk.Text.LowerCase

/-!
The kinds of event the hall is booked for: their labels on the form, their names in
stored data, and the two ways to read them back.
-/

namespace BookingDesk

inductive EventKind where
  | wedding
  | birthday
  | meeting
  | other
deriving DecidableEq

structure UnknownLabel where
  text : String
deriving DecidableEq

def UnknownLabel.message (e : UnknownLabel) : String :=
  "unknown event type: " ++ Text.quote e.text

inductive KindRefusal where
  | unknownName (name : String)
  | notOneKey
  | notNameOrObject (found : Json)
  | notNull (found : Json)

namespace EventKind

/-- The order of the choices on the form. -/
def all : List EventKind := [.wedding, .birthday, .meeting, .other]

theorem mem_all (k : EventKind) : k ∈ all := by
  cases k <;> decide

def preselected : EventKind := .wedding

def label : EventKind → String
  | .wedding => "Mariage"
  | .birthday => "Anniversaire"
  | .meeting => "Réunion"
  | .other => "Autre"

theorem label_inj {k l : EventKind} (h : k.label = l.label) : k = l := by
  cases k <;> cases l <;> first | rfl | exact absurd h (by decide)

/-- The name in stored data. -/
def name : EventKind → String
  | .wedding => "wedding"
  | .birthday => "birthday"
  | .meeting => "meeting"
  | .other => "other"

theorem name_inj {k l : EventKind} (h : k.name = l.name) : k = l := by
  cases k <;> cases l <;> first | rfl | exact absurd h (by decide)

def position (k : EventKind) : Nat :=
  all.idxOf k

def ofLabel? (text : String) : Option EventKind :=
  all.find? (·.label == text)

def ofName? (text : String) : Option EventKind :=
  all.find? (·.name == text)

/-- Reads a label in any mixture of cases, between blanks. -/
def parse (text : String) : Except UnknownLabel EventKind :=
  let wanted := Text.lowerCase (Text.trim text)
  match all.find? fun k => Text.lowerCase k.label == wanted with
  | some kind => .ok kind
  | none => .error ⟨text⟩

def toJson (k : EventKind) : Json :=
  .string k.name

def named (text : String) : Except KindRefusal EventKind :=
  match ofName? text with
  | some kind => .ok kind
  | none => .error (.unknownName text)

/-- Reads the name of a kind, alone or as the only key of an object with nothing
under it. -/
def ofJson : Json → Except KindRefusal EventKind
  | .string text => named text
  | .object [(key, value)] =>
    match named key, value with
    | .error refusal, _ => .error refusal
    | .ok kind, .null => .ok kind
    | .ok _, found => .error (.notNull found)
  | .object _ => .error .notOneKey
  | found => .error (.notNameOrObject found)

def choiceOfJson : Json → Except KindRefusal (Option EventKind)
  | .null => .ok none
  | value => (ofJson value).map some

end EventKind

def KindRefusal.message : KindRefusal → String
  | .unknownName name =>
    "unknown variant `" ++ name ++ "`, expected one of " ++
      ", ".intercalate (EventKind.all.map fun k => "`" ++ k.name ++ "`")
  | .notOneKey => "invalid value: map, expected map with a single key"
  | .notNameOrObject found => "invalid type: " ++ found.describe ++ ", expected string or map"
  | .notNull found => "invalid type: " ++ found.describe ++ ", expected unit"

end BookingDesk
