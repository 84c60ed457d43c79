import BookingDesk.Launch.LogFilter
import BookingDesk.Launch.Message
import BookingDesk.Screen

/-!
The command line. It answers a wrong command line or a call for help, settles the log
filter, and names the window that is opened.
-/

open BookingDesk Launch

def main (arguments : List String) : IO UInt32 := do
  let commandLine := (defaultProgram :: arguments).map fun a => a.toUTF8.toList
  match Launch.parse commandLine with
  | .error refusal =>
    if refusal.exitCode = 0 then IO.print refusal.message else IO.eprintln refusal.message
    return refusal.exitCode.toUInt32
  | .ok options =>
    let setting ← IO.getEnv filterVariable
    let choice := chooseFilter options.logFilter (setting.map fun text => text.toUTF8.toList)
    IO.eprint choice.notices
    IO.println windowTitle
    return 0
