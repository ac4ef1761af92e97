import SctpProbe.CommandLine.Transcript
import SctpProbe.CommandLine.Usage
import SctpProbe.Server.Basic
import SctpProbe.Text.Digit
set_option autoImplicit false

namespace SctpProbe.CommandLine

structure Call where
  port : Value
  bufferSize : Value
  sequenced : Value
  echo : Value
  verbose : Value
  host : Value
  level : Value
  deriving Repr

def Call.names : List String := ["port", "buffer_size", "seq", "echo", "verbose", "host",
    "log_level"]

/-- A call with named values, of which none may be unknown and none may be missing. -/
def Call.ofNamed (named : List (String × Value)) : Except Fault Call :=
  let get := fun name => ((named.find? fun e => e.1 == name).map Prod.snd).getD .nothing
  match named.find? fun e => !names.contains e.1 with
  | some e => .error (.unknownArgument e.1)
  | none =>
    match names.filter fun name => named.all fun e => e.1 != name with
    | [] =>
      .ok ⟨get "port", get "buffer_size", get "seq", get "echo", get "verbose", get "host",
        get "log_level"⟩
    | missing => .error (.missingArguments missing)

inductive Request
  | version
  | help
  | serve (call : Call)
  deriving Repr

def Parsed.last? (p : Parsed) (k : Key) : Option String :=
  (p.options.reverse.find? fun g => g.key == k).map Given.value

def Parsed.has (p : Parsed) (k : Key) : Bool := p.options.any fun g => g.key == k

def Parsed.keys (p : Parsed) : List Key := (p.options.map Given.key).eraseDups

def number (k : Key) (text : String) : Except UsageError Int :=
  match Text.readInt? text.toList with
  | none => .error (.notInteger k text)
  | some n => if k.range.1 ≤ n ∧ n ≤ k.range.2 then .ok n else .error (.outOfRange k n)

def check (k : Key) (text : String) : Except UsageError Unit :=
  match k with
  | .port => (number k text).map fun _ => ()
  | .buffer => (number k text).map fun _ => ()
  | .logLevel =>
    match Log.Level.ofWord? text with
    | some _ => .ok ()
    | none => .error (.unknownLevel text)
  | _ => .ok ()

/-- Checks options in order, each with the last value given for it. -/
def checkAll (p : Parsed) : List Key → Except UsageError Unit
  | [] => .ok ()
  | k :: ks => do
    check k ((p.last? k).getD "")
    checkAll p ks

def Parsed.numberOr (p : Parsed) (k : Key) (usual : Value) : Value :=
  match (p.last? k).map (number k) with
  | some (.ok n) => .int n
  | _ => usual

def Parsed.call (p : Parsed) : Call where
  port := p.numberOr .port Settings.usual.port
  bufferSize := p.numberOr .buffer Settings.usual.bufferSize
  sequenced := .bool (p.has .sequenced)
  echo := .bool (p.has .echo)
  verbose := .bool (p.has .verbose)
  host := (p.last? .host).elim Settings.usual.host .text
  level := (p.last? .logLevel).elim .nothing .text

def Parsed.eager? (p : Parsed) : Option Request :=
  p.options.findSome? fun g =>
    match g.key with
    | .version => some .version
    | .help => some .help
    | _ => none

def interpret (p : Parsed) : Except UsageError Request :=
  match p.eager? with
  | some r => .ok r
  | none => do
    checkAll p p.keys
    if p.arguments.isEmpty then return .serve p.call
    throw (.extraArguments p.arguments)

def read (args : List String) : Except UsageError Request := do
  let p ← parse args
  interpret p

inductive Exit
  | status (n : Int)
  | fault (f : Fault)
  deriving DecidableEq, Repr

/-- What a call shows, how it ends, and with which settings and level a server was made if one was.
-/
structure Result where
  shown : List Shown
  ending : Exit
  server? : Option (Config × Log.Level)

/-- The level that a call chooses: as it says, otherwise by whether more is to be told. -/
def Call.chosenLevel (c : Call) : Value :=
  match c.level with
  | .nothing => .text (if c.verbose.truthy then Log.Level.debug.word else Log.Level.info.word)
  | v => v

def Call.settings (c : Call) : Settings :=
  { Settings.usual with
    host := c.host
    port := c.port
    bufferSize := c.bufferSize
    mode := .text (if c.sequenced.truthy then Mode.message.name else Mode.stream.name)
    echo := c.echo
    verbose := c.verbose }

def exitOf : Except Fault Ending → Exit
  | .ok (.status n) => .status n
  | .ok (.exit n) => .status n
  | .error f => .fault f

def Call.run [Machine] (c : Call) (socket : ServerSocket) : Result :=
  let configured := (Log.Loggers.initial []).configure false c.chosenLevel .nothing
  match configured.2, Log.Logger.levelOf c.chosenLevel with
  | .error f, _ => ⟨[], .fault f, none⟩
  | _, .error f => ⟨[], .fault f, none⟩
  | .ok _, .ok level =>
    match Config.ofSettings c.settings with
    | .error f =>
      if f.family = .wrongValue then
        ⟨complaint ["Error while parsing command line: " ++ f.message], .status 1, none⟩
      else ⟨[], .fault f, none⟩
    | .ok config =>
      let r := (Server.new config).run ⟨true, true, level.number, false⟩ socket
      ⟨transcribe configured.1 r.trace, exitOf r.result, some (config, level)⟩

def runNamed [Machine] (named : List (String × Value)) (socket : ServerSocket) : Result :=
  match Call.ofNamed named with
  | .error f => ⟨[], .fault f, none⟩
  | .ok call => call.run socket

def brokenPipe : Int := 32

def quieten : Exit → Exit
  | .fault (.system e) => if e.number? = some brokenPipe then .status 1 else .fault (.system e)
  | e => e

def run [Machine] (args : List String) (socket : ServerSocket) : Result :=
  match read args with
  | .error e => ⟨complaint e.lines, .status 2, none⟩
  | .ok .version => ⟨[.out versionText], .status 0, none⟩
  | .ok .help => ⟨helpText.map .out, .status 0, none⟩
  | .ok (.serve call) =>
    let r := call.run socket
    { r with ending := quieten r.ending }

end SctpProbe.CommandLine
