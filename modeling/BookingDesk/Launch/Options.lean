import BookingDesk.Launch.Argument
import BookingDesk.Number.Literal

/-!
The options of the program and the reading of a command line. Arguments are read from
left to right and the first problem ends the reading. An option whose value is a
separate argument waits for it, and its value is looked at when the next known option
is met or the arguments end.
-/

namespace BookingDesk.Launch

open Number

inductive Flag where
  | logFilter
  | width
  | height
deriving DecidableEq

namespace Flag

def all : List Flag := [.logFilter, .width, .height]

def name : Flag → String
  | .logFilter => "log-filter"
  | .width => "width"
  | .height => "height"

def usage : Flag → String
  | .logFilter => "--log-filter <LOG_FILTER>"
  | .width => "--width <WIDTH>"
  | .height => "--height <HEIGHT>"

def ofName? (name : List UInt8) : Option Flag :=
  all.find? fun flag => Text.Utf8.ascii flag.name == name

end Flag

structure Options where
  logFilter : Option String
  width : Single
  height : Single
deriving DecidableEq

namespace Options

def defaults : Options :=
  ⟨none, .ofNat .single 600, .ofNat .single 400⟩

def leastWidth : Single := .ofNat .single 320

def leastHeight : Single := .ofNat .single 240

/-- The size of the window: what is asked for, but never below the least. -/
def innerSize (o : Options) : Single × Single :=
  (.atLeast leastWidth o.width, .atLeast leastHeight o.height)

end Options

inductive Fault where
  | unknownArgument (shown : String)
  | invalidValue (flag : Flag) (value : String) (cause : LiteralError)
  | missingValue (flag : Flag)
  | repeated (flag : Flag)
  | valueForHelp (value : String)
  | notUtf8
deriving DecidableEq

inductive Refusal where
  | help (program : String)
  | fault (f : Fault)
deriving DecidableEq

/-- The options read so far, and the one that waits with or without its value. -/
structure Reading where
  logFilter : Option String
  width : Option Single
  height : Option Single
  pending : Option (Flag × Option Argument)
deriving DecidableEq

def helpLetter : UInt8 := 0x68

namespace Reading

def start : Reading := ⟨none, none, none, none⟩

def has (r : Reading) : Flag → Bool
  | .logFilter => r.logFilter.isSome
  | .width => r.width.isSome
  | .height => r.height.isSome

def size (flag : Flag) (text : String) : Except Refusal Single :=
  match Literal.parse text with
  | .ok literal => .ok (literal.toBinary .single)
  | .error cause => .error (.fault (.invalidValue flag text cause))

def set (r : Reading) (flag : Flag) (text : String) : Except Refusal Reading :=
  match flag with
  | .logFilter => .ok { r with logFilter := some text }
  | .width => (size flag text).map fun width => { r with width := some width }
  | .height => (size flag text).map fun height => { r with height := some height }

/-- Takes in an option with its value. It must be the first time and the value must be
text. -/
def accept (r : Reading) (flag : Flag) (value : Argument) : Except Refusal Reading :=
  if r.has flag then .error (.fault (.repeated flag))
  else match Text.Utf8.decode? value with
    | some text => r.set flag text
    | none => .error (.fault .notUtf8)

def resolve (r : Reading) : Except Refusal Reading :=
  match r.pending with
  | none => .ok r
  | some (flag, none) => .error (.fault (.missingValue flag))
  | some (flag, some value) => { r with pending := none }.accept flag value

/-- Ends with the help text, unless what waits is wrong. -/
def help (r : Reading) (program : String) : Except Refusal Reading :=
  r.resolve >>= fun _ => .error (.help program)

def read (program : String) (r : Reading) : List Argument → Except Refusal Reading
  | [] => r.resolve
  | a :: rest =>
    match shape a with
    | .separator =>
      match rest with
      | [] => r.resolve
      | extra :: _ => .error (.fault (.unknownArgument (shown extra)))
    | .long name value =>
      if name = Text.Utf8.ascii "help" then
        match value with
        | none => r.help program
        | some value => .error (.fault (.valueForHelp (shown value)))
      else match Flag.ofName? name, value with
        | none, _ => .error (.fault (.unknownArgument ("--" ++ shown name)))
        | some flag, none =>
          r.resolve >>= fun r => read program { r with pending := some (flag, none) } rest
        | some flag, some value =>
          r.resolve >>= fun r => r.accept flag value >>= fun r => read program r rest
    | .cluster letters =>
      if letters.head? = some helpLetter then r.help program
      else .error (.fault (.unknownArgument (shownLetter letters)))
    | .plain =>
      match r.pending with
      | some (flag, none) => read program { r with pending := some (flag, some a) } rest
      | _ => .error (.fault (.unknownArgument (shown a)))

def options (r : Reading) : Options where
  logFilter := r.logFilter
  width := r.width.getD Options.defaults.width
  height := r.height.getD Options.defaults.height

end Reading

def defaultProgram : String := "hall_desktop"

def slash : UInt8 := 0x2F

/-- The components of a path; empty ones and single dots do not count. -/
def pathParts (path : Argument) : List Argument :=
  (path.splitOnP (· == slash)).filter fun part => part ≠ [] ∧ part ≠ Text.Utf8.ascii "."

def programName (path : Argument) : String :=
  match (pathParts path).getLast? with
  | none => defaultProgram
  | some part =>
    if part = Text.Utf8.ascii ".." then defaultProgram
    else (Text.Utf8.decode? part).getD defaultProgram

def parse : List Argument → Except Refusal Options
  | [] => (Reading.start.read defaultProgram []).map Reading.options
  | path :: arguments => (Reading.start.read (programName path) arguments).map Reading.options

end BookingDesk.Launch
