import BookingDesk.Launch.Options
import BookingDesk.Text.ControlSequence

/-!
What the program writes when it does not start: the help text, or one line about the
argument at fault. What the user wrote is repeated without control sequences, so that
a message leaves the terminal as it is.
-/

namespace BookingDesk.Launch

open Text

def helpText (program : String) : String :=
  "Gestion Salle des Fêtes\n\nUsage: " ++ withoutControls program ++ " [OPTIONS]\n\nOptions:\n" ++
    "      --log-filter <LOG_FILTER>  tracing filter directive, " ++
    "e.g. `debug` or `reservations=debug,info`\n" ++
    "      --width <WIDTH>            [default: 600]\n" ++
    "      --height <HEIGHT>          [default: 400]\n" ++
    "  -h, --help                     Print help\n"

def firstParagraph : List Char → List Char
  | [] => []
  | '\n' :: '\n' :: _ => []
  | c :: rest => c :: firstParagraph rest

def Fault.message : Fault → String
  | .unknownArgument shown => "unexpected argument '" ++ withoutControls shown ++ "' found"
  | .invalidValue flag value cause =>
    "invalid value '" ++ withoutControls value ++ "' for '" ++ flag.usage ++ "': " ++
      cause.message
  | .missingValue flag =>
    "a value is required for '" ++ flag.usage ++ "' but none was supplied"
  | .repeated flag =>
    "the argument '" ++ flag.usage ++ "' cannot be used multiple times"
  | .valueForHelp value =>
    "unexpected value '" ++ withoutControls value ++
      "' for '--help' found; no more were expected"
  | .notUtf8 => "invalid UTF-8 was detected in one or more arguments"

namespace Refusal

def message : Refusal → String
  | .help program => helpText program
  | .fault f => String.ofList (firstParagraph ("error: " ++ f.message).toList)

def exitCode : Refusal → Nat
  | .help _ => 0
  | .fault _ => 2

end Refusal

end BookingDesk.Launch
