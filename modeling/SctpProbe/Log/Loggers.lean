import SctpProbe.Log.Ancestry
import SctpProbe.Log.Logger
set_option autoImplicit false

namespace SctpProbe.Log

structure Loggers where
  top : Logger
  named : List Char → Option Logger

namespace Loggers

def serverName : List Char := rootName.toList

def initial (handlers : List Formatter) : Loggers where
  top := .top handlers
  named name := if name = serverName then some .fresh else none

def known (ls : Loggers) (name : List Char) : Bool := (ls.named name).isSome

def find (ls : Loggers) (name : List Char) : Logger := (ls.named name).getD .fresh

def server (ls : Loggers) : Logger := ls.find serverName

def put (ls : Loggers) (name : List Char) (l : Logger) : Loggers :=
  { ls with named := fun other => if other = name then some l else ls.named other }

def ask (ls : Loggers) (name : List Char) : Loggers :=
  if ls.known name then ls else ls.put name .fresh

def way (ls : Loggers) (name : List Char) : List Logger :=
  (lineage ls.known name).map ls.find ++ [ls.top]

def configure (ls : Loggers) (terminal : Bool) (level asked : Value) :
    Loggers × Except Fault Unit :=
  let r := ls.server.configure terminal level asked
  (ls.put serverName r.1, r.2)

def fullName (part : String) : String := if part.isEmpty then rootName else rootName ++ "." ++ part

/-- Logs through the logger of this name. A record that is to be written has to be made first. -/
def log [Machine] (ls : Loggers) (name : String) (r : Record) :
    Loggers × Except Fault (List String) :=
  let ls := ls.ask name.toList
  let way := ls.way name.toList
  (ls, if Logger.threshold way ≤ r.level then r.checked.map (Logger.written way) else .ok [])

inductive Step
  | configure (terminal : Bool) (level asked : Value)
  | log (name : String) (record : Record)

/-- The loggers after a step and the texts that it writes, unless it fails. -/
def step [Machine] (ls : Loggers) : Step → Loggers × Except Fault (List String)
  | .configure terminal level asked =>
    let r := ls.configure terminal level asked
    (r.1, r.2.map fun _ => [])
  | .log name r => ls.log name r

def run [Machine] (ls : Loggers) : List Step → Loggers × List (Except Fault (List String))
  | [] => (ls, [])
  | s :: rest =>
    let r := ls.step s
    let after := run r.1 rest
    (after.1, r.2 :: after.2)

end Loggers

end SctpProbe.Log
