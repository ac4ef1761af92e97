import SctpProbe.Value.Number
set_option autoImplicit false

/-!
Settings of a server. `Settings` are what somebody asked for, one value of any kind each; a `Config`
is what has passed the checks, and carries the proofs that it has. Port and buffer size have to be
numbers within bounds, the mode has to be a known one and the poll timeout may not be zero or less.
The other settings are taken as they are.
-/

namespace SctpProbe

inductive Mode
  | stream
  | message
  deriving DecidableEq, Repr

def Mode.name : Mode → String
  | .stream => "stream"
  | .message => "message"

def Mode.socketType : Mode → Int
  | .stream => 1
  | .message => 5

def Mode.ofName? (s : String) : Option Mode :=
  if s = "stream" then some .stream else if s = "message" then some .message else none

theorem Mode.ofName?_name (m : Mode) : Mode.ofName? m.name = some m := by
  cases m <;> decide

structure Settings where
  host : Value
  port : Value
  bufferSize : Value
  mode : Value
  echo : Value
  verbose : Value
  backlog : Value
  pollTimeout : Value
  sendTimeout : Value
  deriving Repr

namespace Settings

def tenth : Binary64 := Binary64.ofDecimal false 1 (-1)

def one : Binary64 := Binary64.ofDecimal false 1 0

def usual : Settings where
  host := .text "::"
  port := .int 2001
  bufferSize := .int 1024
  mode := .text "stream"
  echo := .bool false
  verbose := .bool false
  backlog := .int 2
  pollTimeout := .float tenth
  sendTimeout := .float one

def set? (s : Settings) (name : String) (v : Value) : Option Settings :=
  if name = "host" then some { s with host := v }
  else if name = "port" then some { s with port := v }
  else if name = "buffer_size" then some { s with bufferSize := v }
  else if name = "mode" then some { s with mode := v }
  else if name = "echo" then some { s with echo := v }
  else if name = "verbose" then some { s with verbose := v }
  else if name = "backlog" then some { s with backlog := v }
  else if name = "poll_timeout" then some { s with pollTimeout := v }
  else if name = "send_timeout" then some { s with sendTimeout := v }
  else none

/-- The name that stands for the settings themselves, which are always given already. -/
def ownName : String := "self"

def setAll (s : Settings) : List (String × Value) → Except Fault Settings
  | [] => .ok s
  | (name, v) :: rest =>
    match s.set? name v with
    | none => .error (if name = ownName then .repeatedSetting name else .unknownSetting name)
    | some s => s.setAll rest

def ofNamed (named : List (String × Value)) : Except Fault Settings := usual.setAll named

end Settings

def Config.limit : Int := 0xFFFF

structure Config where
  host : Value
  port : Number
  bufferSize : Number
  mode : Mode
  echo : Value
  verbose : Value
  backlog : Value
  pollTimeout : Number
  sendTimeout : Value
  port_within : (port.atLeast 0 && port.atMost Config.limit) = true
  bufferSize_within : (bufferSize.above 0 && bufferSize.atMost Config.limit) = true
  pollTimeout_not_atMost : pollTimeout.atMost 0 = false
  deriving Repr

namespace Config

def comparable (relation : String) (v : Value) : Except Fault Number :=
  match Number.ofValue? v with
  | some n => .ok n
  | none => .error (.incomparable relation "int" v.kindName)

def checkPort (v : Value) :
    Except Fault { n : Number // (n.atLeast 0 && n.atMost limit) = true } := do
  let n ← comparable "<=" v
  if h : (n.atLeast 0 && n.atMost limit) = true then return ⟨n, h⟩
  let s ← v.shown
  throw (.malformedPort s)

def checkBufferSize (v : Value) :
    Except Fault { n : Number // (n.above 0 && n.atMost limit) = true } := do
  let n ← comparable "<" v
  if h : (n.above 0 && n.atMost limit) = true then return ⟨n, h⟩
  let s ← v.shown
  throw (.illegalBufferSize s)

def checkMode (v : Value) : Except Fault Mode :=
  match v with
  | .text s =>
    match Mode.ofName? s with
    | some m => .ok m
    | none => do
      let q ← v.quoted
      throw (.unknownMode q)
  | _ => do
    let q ← v.quoted
    throw (.unknownMode q)

/-- A nan is no less positive than any other number here. -/
def checkPollTimeout (v : Value) : Except Fault { n : Number // n.atMost 0 = false } :=
  match Number.ofValue? v with
  | none => .error (.incomparable "<=" v.kindName "int")
  | some n => if h : n.atMost 0 = false then .ok ⟨n, h⟩ else .error .unpositivePollTimeout

/-- Checks settings in the order port, buffer size, mode, poll timeout. -/
def ofSettings (s : Settings) : Except Fault Config := do
  let port ← checkPort s.port
  let bufferSize ← checkBufferSize s.bufferSize
  let mode ← checkMode s.mode
  let pollTimeout ← checkPollTimeout s.pollTimeout
  return {
    host := s.host
    port := port.1
    bufferSize := bufferSize.1
    mode := mode
    echo := s.echo
    verbose := s.verbose
    backlog := s.backlog
    pollTimeout := pollTimeout.1
    sendTimeout := s.sendTimeout
    port_within := port.2
    bufferSize_within := bufferSize.2
    pollTimeout_not_atMost := pollTimeout.2 }

def ofNamed (named : List (String × Value)) : Except Fault Config := do
  let s ← Settings.ofNamed named
  ofSettings s

def usual : Config where
  host := Settings.usual.host
  port := .int 2001
  bufferSize := .int 1024
  mode := .stream
  echo := Settings.usual.echo
  verbose := Settings.usual.verbose
  backlog := Settings.usual.backlog
  pollTimeout := .float Settings.tenth
  sendTimeout := Settings.usual.sendTimeout
  port_within := by decide
  bufferSize_within := by decide
  pollTimeout_not_atMost := by decide +kernel

end Config

end SctpProbe
