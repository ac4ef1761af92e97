import SctpProbe.Network.Setup
import SctpProbe.Server.Service
import SctpProbe.Server.Signal
set_option autoImplicit false

/-!
A server from start to end. Starting makes the context and the socket and announces where the server
can be reached; then the mode is serviced until the server is to stop or its socket is of no use any
more; shutting down reports the signals that came and closes the socket. The same server may run
several times, and a request to stop outlives the run in which it was made.
-/

namespace SctpProbe

open Network

structure Arrival where
  connection? : Option Connection
  message? : Option Message
  deriving Repr

structure ServerSocket where
  script : List (Item Arrival)
  sends : List Send
  obstacles : Obstacles
  name : Value
  deriving Repr

def usualName : Value := .tuple [.text "::", .int 2001, .int 0, .int 0]

def ServerSocket.silent : ServerSocket := ⟨[], [], Obstacles.none, usualName⟩

/-- Where a server runs. `singleStack` says whether a socket can be kept to one version of IP. A
record that cannot be written is a fault if logging is `strict`, and gets lost otherwise. -/
structure Surroundings where
  mainThread : Bool
  singleStack : Bool
  threshold : Int
  strict : Bool
  deriving Repr

/-- `discarded` are the contexts of runs that had no socket, as they were left. -/
structure Server where
  config : Config
  token : Token
  context? : Option Context
  started : Bool
  runs : Nat
  connections : List (Endpoint (List UInt8))
  discarded : List Context

inductive Ending
  | status (n : Int)
  | exit (code : Int)
  deriving DecidableEq, Repr

namespace Server

def new (config : Config) : Server := ⟨config, Token.fresh, none, false, 0, [], []⟩

def stop (s : Server) : Server := { s with token := s.token.cancel }

def socketId (s : Server) : SocketId := .server s.runs

def announcement (mode : Mode) (address : String) : Log.Entry :=
  let start := "SCTP " ++ mode.name ++ " server listening on "
  let rest := " (Press CTRL+C to quit)"
  ⟨.info, .server, start ++ address ++ rest,
    some (start ++ String.ofList (Text.Ansi.bold ['%', 's']) ++ rest)⟩

def addressShown (name : Value) (peer : Option Peer) : Except Fault String :=
  match peer with
  | some p => p.shown
  | none => name.shown

/-- Announces where the server can be reached. A level above that of the announcement needs no
address that can be shown. -/
def announce (mode : Mode) (around : Surroundings) (socket : ServerSocket) :
    Trace × Except Fault Unit :=
  match socket.obstacles.name? with
  | some e => ([], .error (.system e))
  | none =>
    match Peer.ofSocketAddress socket.name with
    | .error f => ([], .error f)
    | .ok peer =>
      match addressShown socket.name peer with
      | .ok address => ([.log (announcement mode address)], .ok ())
      | .error f =>
        if around.strict ∧ around.threshold ≤ Log.Level.info.number then ([], .error f)
          else ([], .ok ())

def mailbox (s : Server) (id : SocketId) (socket : ServerSocket) (c : Context) :
    Messaging.Mailbox :=
  ⟨s.token, ⟨id, socket.script.map (Item.filterMap Arrival.message?), socket.sends, false⟩, c⟩

def listener (s : Server) (id : SocketId) (socket : ServerSocket) (c : Context) : Stream.Listener :=
  ⟨s.token, ⟨id, socket.script.map (Item.filterMap Arrival.connection?), socket.sends, false⟩,
    s.connections, c⟩

def serve (s : Server) (id : SocketId) (socket : ServerSocket) (c : Context) : Ran Server Bool :=
  match s.config.mode with
  | .stream =>
    let r := (s.listener id socket c).service
    ⟨r.trace, { s with
      token := r.state.token, context? := some r.state.context, connections :=
        r.state.connections },
      r.result⟩
  | .message =>
    let r := (s.mailbox id socket c).service
    ⟨r.trace, { s with token := r.state.token, context? := some r.state.context }, r.result⟩

def signalReport (n : Int) : Trace :=
  Trace.speak .debug .server ("Received signal " ++ Signal.nameOf n) ++
    if n = Signal.pipe.number then
      Trace.speak .warning .server "Received SIGPIPE, closing down"
    else []

def shutDown (s : Server) : Trace × Server :=
  let closing := match s.context? with
    | some c => (c.close.1, some c.close.2)
    | none => ([], none)
  (Trace.speak .info .server "Shutting down server..." ++ s.token.signals.flatMap signalReport ++
    closing.1, { s with context? := closing.2 })

def serveAndShutDown (s : Server) (id : SocketId) (socket : ServerSocket) (c : Context) :
    Ran Server Ending :=
  let r := s.serve id socket c
  let down := r.state.shutDown
  match r.result with
  | .error f => ⟨r.trace ++ down.1, down.2, .error f⟩
  | .ok usable =>
    ⟨r.trace ++ down.1 ++ Trace.speak .info .server "Server shutdown complete!", down.2,
      .ok (.status (if usable then 0 else 1))⟩

def prepare (s : Server) (id : SocketId) (socket : ServerSocket) (c : Context) : Trace × Context :=
  match s.config.mode with
  | .stream => ([], c)
  | .message => Messaging.subscribe id socket.obstacles.events? c

def proceed (s : Server) (around : Surroundings) (id : SocketId) (socket : ServerSocket)
    (c : Context) : Ran Server Ending :=
  let prepared := s.prepare id socket c
  let c := prepared.2
  let s := { s with context? := some c }
  let allocated := Trace.speak .debug .server
    ("Allocated " ++ toString c.room ++ " bytes for recv buffer")
  let announced := announce s.config.mode around socket
  let start := prepared.1 ++ allocated ++ announced.1
  match announced.2 with
  | .error f => ⟨start, s, .error f⟩
  | .ok _ => (({ s with started := true } : Server).serveAndShutDown id socket c).after start

/-- Makes the socket and goes on with it; without one the new context is closed and that of an
earlier run stays. -/
def launch (s : Server) (around : Surroundings) (id : SocketId) (socket : ServerSocket)
    (c : Context) : Ran Server Ending :=
  let opening := Trace.speak .debug .server ("Using " ++ s.config.mode.name ++ " socket")
  let setup := setUp s.config s.config.mode.socketType id around.singleStack socket.obstacles
  match setup.2 with
  | .error e =>
    ⟨opening ++ setup.1 ++
      Trace.speak .error .server ("Error while initializing the server: " ++ e.message) ++
        c.close.1,
      { s with discarded := s.discarded ++ [c.close.2] }, .ok (.exit 1)⟩
  | .ok _ => (s.proceed around id socket { c with socket? := some id }).after (opening ++ setup.1)

def run (s : Server) (around : Surroundings) (socket : ServerSocket) : Ran Server Ending :=
  let id := s.socketId
  let s := { s with runs := s.runs + 1 }
  let start := Trace.speak .info .server "Starting server..."
  match Context.ofConfig s.config with
  | .error f => ⟨start, s, .error f⟩
  | .ok c => (s.launch around id socket c).after start

/-- A run among the signal handlers of its process: who handled the signals from the making of the
socket on, if one was to be made, and who handles them afterwards. -/
structure Handled where
  ran : Ran Server Ending
  during? : Option Signal.Handlers
  later : Signal.Handlers

def runHandled (s : Server) (around : Surroundings) (handlers : Signal.Handlers)
    (socket : ServerSocket) : Handled :=
  let captured := Signal.capture around.mainThread handlers
  ⟨s.run around socket, (Context.ofConfig s.config).toOption.map fun _ => captured.2,
    Signal.handBack captured.1 captured.2⟩

end Server

end SctpProbe
