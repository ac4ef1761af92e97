import SctpProbe.Address.Literal
set_option autoImplicit false

namespace SctpProbe

inductive Family
  | inet
  | inet6
  | other (number : Int)
  deriving DecidableEq, Repr

def Family.ofNumber (n : Int) : Family :=
  if n = 2 then .inet else if n = 10 then .inet6 else .other n

structure Peer where
  family : Family
  host : Value
  port : Value
  deriving Repr

namespace Peer

/-- Host and port of a socket address of that family: the host has to be an address, and the port
has to denote a whole number. -/
def ofParts (family : Family) (host port : Value) : Except Fault (Option Peer) :=
  match Address.ofValue host with
  | .error _ => .ok none
  | .ok _ => do
    match ← port.denoted? with
    | none => return none
    | some n => return some ⟨family, host, .int n⟩

/-- The peer at a socket address, nobody if the address cannot be interpreted. The fault is an
infinite port. -/
def ofSocketAddress : Value → Except Fault (Option Peer)
  | .tuple [host, port] => ofParts .inet host port
  | .tuple [host, port, _, _] => ofParts .inet6 host port
  | _ => .ok none

theorem ofParts_error {family : Family} {host port : Value} {f : Fault}
    (h : ofParts family host port = .error f) : f = .infiniteNumber := by
  unfold ofParts at h
  split at h
  · simp at h
  · cases hp : port.denoted? with
    | error f' =>
      simp only [hp, bind, Except.bind, Except.error.injEq] at h
      subst h
      exact Value.denoted?_error hp
    | ok n =>
      cases n <;> simp [hp, bind, Except.bind, pure, Except.pure] at h

theorem ofSocketAddress_error {v : Value} {f : Fault} (h : ofSocketAddress v = .error f) :
    f = .infiniteNumber := by
  unfold ofSocketAddress at h
  split at h
  · exact ofParts_error h
  · exact ofParts_error h
  · simp at h

def mapped? (p : Peer) : Except Fault (Option String) :=
  match p.family with
  | .inet6 => do
    match ← Address.ofValue p.host with
    | .v4 _ => throw .noMappedForm
    | .v6 bits => return (Address.mapped? bits).map fun n => String.ofList (Address.quad n)
  | _ => .ok none

def shown (p : Peer) : Except Fault String :=
  match p.family with
  | .inet => do
    let host ← p.host.shown
    let port ← p.port.shown
    return host ++ ":" ++ port
  | _ => do
    match ← p.mapped? with
    | some quad =>
      let port ← p.port.shown
      return quad ++ ":" ++ port
    | none =>
      let host ← p.host.shown
      let port ← p.port.shown
      return "[" ++ host ++ "]:" ++ port

def unknown : String := "unknown"

def shownOrUnknown : Option Peer → Except Fault String
  | some p => p.shown
  | none => .ok unknown

def display (address : Value) : Except Fault String := do
  let peer ← ofSocketAddress address
  shownOrUnknown peer

def renders (address : Value) : Bool := (display address).isOk

def same (p q : Peer) : Bool :=
  p.family == q.family && p.host.same q.host && p.port.same q.port

end Peer

end SctpProbe
