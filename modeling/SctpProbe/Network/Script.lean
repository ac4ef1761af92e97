import SctpProbe.DeliveryInfo
set_option autoImplicit false

/-!
Scripts: what happens on a socket from outside. Every wait takes one item from the script of its
socket, every outgoing call one item from a second list. `Endpoint.load` measures what a script
still holds; every wait and every receive makes it smaller.
-/

namespace SctpProbe.Network

inductive SocketId
  | server (n : Nat)
  | connection (n : Nat)
  deriving DecidableEq, Repr

/-- When a request to stop or a signal arrives: as a wait begins, as the call after it begins, or as
something is sent. -/
inductive Moment
  | wait
  | call
  | send
  deriving DecidableEq, Repr

/-- What a wait finds. Registering fails for `interrupted`, `error` and `closed`, after which the
descriptor of the socket is gone for good; the others belong to the wait itself. -/
inductive Poll
  | ready
  | timedOut
  | interrupted
  | interruptedWait
  | error
  | closed
  deriving DecidableEq, Repr

/-- One item of a script. The payload is what the call after the wait delivers. -/
structure Item (α : Type) where
  poll : Poll
  error? : Option SystemError
  stop? : Option Moment
  signal? : Option (Int × Moment)
  payload? : Option α
  deriving Repr

namespace Item

variable {α β : Type}

def delivering (payload : α) : Item α := ⟨.ready, none, none, none, some payload⟩

def filterMap (f : α → Option β) (i : Item α) : Item β :=
  ⟨i.poll, i.error?, i.stop?, i.signal?, i.payload?.bind f⟩

def load (size : α → Nat) (i : Item α) : Nat :=
  1 + match i.payload? with
    | some p => size p
    | none => 0

def loads (size : α → Nat) : List (Item α) → Nat
  | [] => 0
  | i :: rest => i.load size + loads size rest

theorem loads_append (size : α → Nat) (xs ys : List (Item α)) :
    loads size (xs ++ ys) = loads size xs + loads size ys := by
  induction xs with
  | nil => simp [loads]
  | cons i rest ih => simp [loads, ih, Nat.add_assoc]

end Item

inductive Send
  | accept (count : Nat)
  | block
  | stall
  | fail (error : SystemError)
  deriving DecidableEq, Repr

/-- An accepted connection before anything happens on it: the address of the peer, its scripts, and
the failure to make it non-blocking if there is one. -/
structure Connection where
  sender : Value
  script : List (Item (List UInt8))
  sends : List Send
  unblocking? : Option SystemError
  deriving Repr

structure Message where
  data : List UInt8
  sender : Value
  control : List ControlMessage
  flags : Int
  deriving Repr

/-- A socket in use. `shut` says that its descriptor is gone. -/
structure Endpoint (α : Type) where
  id : SocketId
  script : List (Item α)
  sends : List Send
  shut : Bool
  deriving Repr

namespace Endpoint

variable {α : Type}

def load (size : α → Nat) (e : Endpoint α) : Nat := Item.loads size e.script

theorem load_cons (size : α → Nat) {e : Endpoint α} {i : Item α} {rest : List (Item α)}
    (h : e.script = i :: rest) :
    e.load size = i.load size + ({ e with script := rest } : Endpoint α).load size := by
  simp [load, Item.loads, h]

end Endpoint

end SctpProbe.Network
