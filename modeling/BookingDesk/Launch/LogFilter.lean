import BookingDesk.Launch.Options
import BookingDesk.Text.Blank

/-!
Which log filter applies: the option, then the environment, then the default. The
environment is looked at only if the option is absent or blank.
-/

namespace BookingDesk.Launch

def filterVariable : String := "HALL_LOG"

def defaultFilter : String := "info"

inductive FilterFault where
  | blank
  | notUnicode
deriving DecidableEq

def FilterFault.message : FilterFault → String
  | .blank => filterVariable ++ " was set but empty"
  | .notUnicode => filterVariable ++ " is not valid unicode"

def FilterFault.notice (fault : FilterFault) : String :=
  "ignoring log filter override: " ++ fault.message ++ "\n"

structure FilterChoice where
  filter : String
  notices : String
deriving DecidableEq

def usable? (setting : String) : Option String :=
  let text := Text.trim setting
  if text = "" then none else some text

/-- The filter of the environment, where a missing variable is no fault. -/
def environmentFilter (setting : Option (List UInt8)) : Except FilterFault (Option String) :=
  match setting with
  | none => .ok none
  | some bytes =>
    match Text.Utf8.decode? bytes with
    | none => .error .notUnicode
    | some text =>
      match usable? text with
      | none => .error .blank
      | some filter => .ok (some filter)

def chooseFilter (option : Option String) (setting : Option (List UInt8)) : FilterChoice :=
  match option.bind usable? with
  | some filter => ⟨filter, ""⟩
  | none =>
    match environmentFilter setting with
    | .ok filter => ⟨filter.getD defaultFilter, ""⟩
    | .error fault => ⟨defaultFilter, fault.notice⟩

end BookingDesk.Launch
