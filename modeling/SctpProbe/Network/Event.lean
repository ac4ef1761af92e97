import SctpProbe.Log.Entry
import SctpProbe.Network.Script
import SctpProbe.Text.Split
set_option autoImplicit false

/-!
Events: everything that a run shows to the outside, in order. Calls that set up a socket are listed
with the failure they meet, if they meet one; whatever else fails has an event of its own.
-/

namespace SctpProbe.Network

inductive Outcome
  | ready
  | timedOut
  | interrupted
  | failed (error : SystemError)
  deriving DecidableEq, Repr

inductive Event
  | line (text : String)
  | log (entry : Log.Entry)
  | waited (socket : SocketId) (timeout : Value) (outcome : Outcome)
  | accepted (socket connection : SocketId) (sender : Value)
  | acceptFailed (socket : SocketId) (error : SystemError)
  | received (socket : SocketId) (room count : Nat)
  | receiveFailed (socket : SocketId) (error : SystemError)
  | receivedMessage (socket : SocketId) (room controlRoom count : Nat) (flags : Int)
  | receiveMessageFailed (socket : SocketId) (error : SystemError)
  | sent (socket : SocketId) (bytes : List UInt8)
  | sendFailed (socket : SocketId) (error : SystemError)
  | sentMessage (socket : SocketId) (data : List UInt8) (control : List ControlMessage)
      (flags : Int)
      (receiver : Value) (failure? : Option SystemError)
  | opened (socket : SocketId) (family type protocol : Int) (failure? : Option SystemError)
  | optionSet (socket : SocketId) (level option : Int) (value : Value)
      (failure? : Option SystemError)
  | bound (socket : SocketId) (address : Value) (failure? : Option SystemError)
  | listening (socket : SocketId) (backlog : Value) (failure? : Option SystemError)
  | unblocked (socket : SocketId) (failure? : Option SystemError)
  | closed (socket : SocketId)
  | ended (socket : SocketId)
  | stopped
  | signalled (signal : Int)
  deriving Repr

abbrev Trace := List Event

def console (text : String) : Trace :=
  (Text.split '\n' (Text.Ansi.strip text.toList)).map fun l => .line (String.ofList l)

namespace Trace

def speak (level : Log.Level) (speaker : Log.Speaker) (message : String) : Trace :=
  [.log (.plain level speaker message)]

/-- Whether an event is shown when log entries below a level are not. -/
def shownFrom (threshold : Int) : Event → Bool
  | .log e => threshold ≤ e.level.number
  | _ => true

def fromLevel (threshold : Int) (t : Trace) : Trace := t.filter (shownFrom threshold)

def sockets (t : Trace) : List SocketId :=
  t.filterMap fun
    | .opened s _ _ _ none => some s
    | .accepted _ c _ => some c
    | _ => none

def closings (s : SocketId) (t : Trace) : Nat :=
  t.countP fun
    | .closed q => q == s
    | _ => false

@[simp] theorem closings_nil (s : SocketId) : closings s [] = 0 := rfl

@[simp] theorem closings_append (s : SocketId) (t u : Trace) :
    closings s (t ++ u) = closings s t + closings s u := by
  simp [closings]

end Trace

end SctpProbe.Network
