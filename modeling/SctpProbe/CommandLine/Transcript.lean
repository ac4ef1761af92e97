import SctpProbe.Log.Loggers
import SctpProbe.Network.Event
set_option autoImplicit false

/-!
Transcripts: a trace as it looks from outside the program, where log entries are lines on the error
output. Lines are held back until the next thing happens on a socket; then the lines of the console
come before the lines of the error output.
-/

namespace SctpProbe.CommandLine

open Network (Event Trace)

inductive Shown
  | out (line : String)
  | err (line : String)
  | event (e : Event)
  deriving Repr

def complaint (lines : List String) : List Shown :=
  lines.flatMap fun l => (Log.Logger.linesOf (String.ofList (Text.Ansi.strip l.toList))).map .err

def logged [Machine] (loggers : Log.Loggers) (e : Log.Entry) : Log.Loggers × List String :=
  let r := loggers.log e.speaker.name (.ofEntry e)
  (r.1, (r.2.toOption.getD []).flatMap Log.Logger.linesOf)

/-- The transcript of a trace with its loggers, `outs` and `errs` being the lines held back so far.
-/
def transcribeFrom [Machine] (loggers : Log.Loggers) (outs errs : List String) : Trace → List Shown
  | [] => outs.map .out ++ errs.map .err
  | .line l :: rest => transcribeFrom loggers (outs ++ [l]) errs rest
  | .log e :: rest =>
    let r := logged loggers e
    transcribeFrom r.1 outs (errs ++ r.2) rest
  | e :: rest => outs.map .out ++ errs.map .err ++ .event e :: transcribeFrom loggers [] [] rest

def transcribe [Machine] (loggers : Log.Loggers) (t : Trace) : List Shown :=
  transcribeFrom loggers [] [] t

end SctpProbe.CommandLine
