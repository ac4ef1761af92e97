import SctpProbe.Log.Record
import SctpProbe.Text.Split
set_option autoImplicit false

/-!
Loggers. What becomes of a record is decided by all loggers on the way up from the one that it is
logged through: the first level that is set on the way is the lowest one of which records are made,
and the handlers of all of them write the record, as far as each hands it on. A severe record that
no handler is there for is written all the same, but without any layout.
-/

namespace SctpProbe.Log

/-- A handler is known by its formatter. A level of zero leaves the decision to the logger above, to
which records also go on as long as `propagate` holds. -/
structure Logger where
  handlers : List Formatter
  level : Int
  propagate : Bool
  deriving DecidableEq, Repr

namespace Logger

def fresh : Logger := ⟨[], 0, true⟩

def upperLevel : Int := Level.warning.number

def top (handlers : List Formatter) : Logger := ⟨handlers, upperLevel, true⟩

def levelOf (v : Value) : Except Fault Level :=
  let chosen := match v with
    | .text s => Level.ofWord? s
    | _ => none
  match chosen with
  | some l => .ok l
  | none =>
    match v.changeable? with
    | some kind => .error (.unhashable kind)
    | none => do
      let s ← v.quoted
      throw (.unknownLevel s)

def colours (terminal : Bool) (asked : Value) : Bool :=
  match asked with
  | .nothing => terminal
  | v => v.truthy

/-- Configures a logger. The handlers are replaced before the level is looked at. -/
def configure (l : Logger) (terminal : Bool) (level asked : Value) : Logger × Except Fault Unit :=
  let l := { l with handlers := [.server (colours terminal asked)] }
  match levelOf level with
  | .error f => (l, .error f)
  | .ok n => ({ l with level := n.number, propagate := false }, .ok ())

/-- The level from which on records are made, on the way up through these loggers. -/
def threshold : List Logger → Int
  | [] => 0
  | l :: up => if l.level = 0 then threshold up else l.level

/-- The handlers that a record comes to on the way up through these loggers. -/
def reached : List Logger → List Formatter
  | [] => []
  | l :: up => l.handlers ++ if l.propagate then reached up else []

def lastResort : Formatter := ⟨false, Formatter.plainLayout⟩

def writers (way : List Logger) (level : Int) : List Formatter :=
  match reached way with
  | [] => if Level.warning.number ≤ level then [lastResort] else []
  | fs => fs

/-- The texts that are written of a record, one by each handler. A handler that cannot write it
writes nothing. -/
def written [Machine] (way : List Logger) (r : Record) : List String :=
  (Formatter.outputs (writers way r.level) r).filterMap Except.toOption

def linesOf (text : String) : List String := (Text.split '\n' text.toList).map String.ofList

end Logger

end SctpProbe.Log
