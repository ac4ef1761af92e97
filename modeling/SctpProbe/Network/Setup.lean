import SctpProbe.Config
import SctpProbe.Network.Event
set_option autoImplicit false

namespace SctpProbe.Network

inductive Step
  | socket
  | setsockopt
  | bind
  | listen
  deriving DecidableEq, Repr

def Step.name : Step → String
  | .socket => "socket"
  | .setsockopt => "setsockopt"
  | .bind => "bind"
  | .listen => "listen"

structure SetupError where
  step : Step
  cause : SystemError
  deriving DecidableEq, Repr

def describeCause (e : SystemError) : String :=
  match e.reason? with
  | some r => if r.isEmpty then e.message else r
  | none => e.message

def describeFailure (step : String) (cause : SystemError) : String :=
  "Unable to " ++ step ++ "(): " ++ describeCause cause

def SetupError.message (e : SetupError) : String := describeFailure e.step.name e.cause

structure Obstacles where
  socket? : Option SystemError
  setsockopt? : Option SystemError
  events? : Option SystemError
  bind? : Option SystemError
  listen? : Option SystemError
  unblock? : Option SystemError
  name? : Option SystemError
  deriving Repr

def Obstacles.none : Obstacles := ⟨.none, .none, .none, .none, .none, .none, .none⟩

def inet6 : Int := 10

def ipv6Level : Int := 41
def singleStack : Int := 26

def portText (n : Number) : String :=
  match n.toValue.truncated? with
  | .ok (some k) => toString k
  | _ => "0"

/-- One attempt of the setup: the step it belongs to, what it shows, and the failure it meets. -/
structure Attempt where
  step : Step
  shows : Trace
  failure? : Option SystemError

/-- What is attempted once the socket has been made. `optional` says whether the platform can keep a
socket to one version of IP. -/
def attempts (config : Config) (id : SocketId) (optional : Bool) (o : Obstacles) : List Attempt :=
  (if optional then
    [⟨.setsockopt, [.optionSet id ipv6Level singleStack (.int 0) o.setsockopt?], o.setsockopt?⟩]
  else []) ++
  [⟨.bind, Trace.speak .debug .sockets ("Binding to port " ++ portText config.port) ++
      [.bound id (.tuple [config.host, config.port.toValue]) o.bind?], o.bind?⟩,
    ⟨.listen, [.listening id config.backlog o.listen?], o.listen?⟩,
    ⟨.listen, [.unblocked id o.unblock?], o.unblock?⟩]

def tryAll : List Attempt → Trace × Option SetupError
  | [] => ([], none)
  | a :: rest =>
    match a.failure? with
    | some e => (a.shows, some ⟨a.step, e⟩)
    | none => (a.shows ++ (tryAll rest).1, (tryAll rest).2)

def setUp (config : Config) (type : Int) (id : SocketId) (optional : Bool) (o : Obstacles) :
    Trace × Except SetupError Unit :=
  let made : Trace := [.opened id inet6 type sctp o.socket?]
  match o.socket? with
  | some e => (made, .error ⟨.socket, e⟩)
  | none =>
    match tryAll (attempts config id optional o) with
    | (trace, none) => (made ++ trace, .ok ())
    | (trace, some e) => (made ++ trace ++ [.closed id], .error e)

end SctpProbe.Network
