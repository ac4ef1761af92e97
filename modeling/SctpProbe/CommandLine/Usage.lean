import SctpProbe.CommandLine.Options
import SctpProbe.Log.Level
import SctpProbe.Text.Quoted
set_option autoImplicit false

namespace SctpProbe.CommandLine

def usage : String := "Usage: sctp-server [OPTIONS]"

def hint : String := "Try 'sctp-server --help' for help."

def versionText : String := "sctp_server, version 0.0.2"

def helpText : List String := [
  usage,
  "",
  "  Simple SCTP server.",
  "",
  "Options:",
  "  -p, --port INTEGER RANGE        Listen on local port <port>.  [default:",
  "                                  2001; 0<=x<=65535]",
  "  -b, --buf INTEGER RANGE         Size of receive buffer.  [default: 1024;",
  "                                  1<=x<=65535]",
  "  -s, --seq                       Use SOCK_SEQPACKET socket instead of",
  "                                  SOCK_STREAM.",
  "  -e, --echo                      Echo the received data back to sender.",
  "  -v, --verbose                   Be more verbose, report stream, ppid and",
  "                                  sequence numbers of each message.",
  "  --host TEXT                     Local address to bind to.  [default: ::]",
  "  --log-level [critical|error|warning|info|debug]",
  "                                  Log level. Defaults to debug with --verbose,",
  "                                  info otherwise.",
  "  --version                       Show the version and exit.",
  "  -H, --help                      Show this message and exit."]

def quoted (s : String) : String := String.ofList (Text.Quoted.ofText s.toList)

def Key.names (k : Key) : String :=
  (match k.short? with
    | some c => quoted (shortName c) ++ " / "
    | none => "") ++ quoted k.long

def Key.range : Key → Int × Int
  | .buffer => (1, 65535)
  | _ => (0, 65535)

def invalidValue (k : Key) (reason : String) : String :=
  "Invalid value for " ++ k.names ++ ": " ++ reason

def suggestion : List String → String
  | [] => ""
  | [s] => " Did you mean " ++ quoted s ++ "?"
  | ss => " (Did you mean one of: " ++ ", ".intercalate (ss.map quoted) ++ "?)"

namespace UsageError

def message : UsageError → String
  | .missingValue o => "Option " ++ quoted o ++ " requires an argument."
  | .unwantedValue o => "Option " ++ quoted o ++ " does not take a value."
  | .unknownShort o => "No such option " ++ quoted o ++ "."
  | .unknownLong o ss => "No such option " ++ quoted o ++ "." ++ suggestion ss
  | .notInteger k s => invalidValue k (quoted s ++ " is not a valid integer range.")
  | .outOfRange k n =>
    invalidValue k (toString n ++ " is not in the range " ++ toString k.range.1 ++ "<=x<=" ++
      toString k.range.2 ++ ".")
  | .unknownLevel s =>
    invalidValue .logLevel (quoted s ++ " is not one of " ++
      ", ".intercalate (Log.Level.all.map fun l => quoted l.word) ++ ".")
  | .extraArguments [a] => "Got unexpected extra argument (" ++ a ++ ")"
  | .extraArguments as => "Got unexpected extra arguments (" ++ " ".intercalate as ++ ")"

/-- A value that is missing or not wanted is told without a hint. -/
def hinted : UsageError → Bool
  | .missingValue _ => false
  | .unwantedValue _ => false
  | _ => true

def lines (e : UsageError) : List String :=
  (if e.hinted then [usage, hint, ""] else []) ++ ["Error: " ++ e.message]

end UsageError

end SctpProbe.CommandLine
