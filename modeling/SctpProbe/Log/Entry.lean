import SctpProbe.Log.Level
set_option autoImplicit false

namespace SctpProbe.Log

inductive Speaker
  | server
  | sockets
  | stream
  | message
  deriving DecidableEq, Repr

def rootName : String := "sctp_server"

def Speaker.name : Speaker → String
  | .server => rootName ++ ".server"
  | .sockets => rootName ++ ".sockets"
  | .stream => rootName ++ ".stream_conn"
  | .message => rootName ++ ".message_conn"

structure Entry where
  level : Level
  speaker : Speaker
  message : String
  styled? : Option String
  deriving DecidableEq, Repr

def Entry.plain (level : Level) (speaker : Speaker) (message : String) : Entry :=
  ⟨level, speaker, message, none⟩

end SctpProbe.Log
