import SctpProbe.Address.Peer
import SctpProbe.Stream.Session
set_option autoImplicit false

namespace SctpProbe.Stream

open Network

structure Listener where
  token : Token
  endpoint : Endpoint Connection
  connections : List (Endpoint (List UInt8))
  context : Context

namespace Listener

/-- Connections are not measured by what happens on them later. -/
def size (_ : Connection) : Nat := 0

def remaining (s : Listener) : Nat := Network.remaining size s.token s.endpoint

def poll (s : Listener) : Waited Connection :=
  wait s.context.config.pollTimeout.toValue s.token s.endpoint

abbrev Accepted := Option (Endpoint (List UInt8) × Option Peer)

def adopt (s : Listener) (c : Connection) : Ran Listener Accepted :=
  let id := SocketId.connection s.connections.length
  let conn : Endpoint (List UInt8) := ⟨id, c.script, c.sends, false⟩
  let s := { s with connections := s.connections ++ [conn] }
  let arrival : Trace := [.accepted s.endpoint.id id c.sender, .unblocked id c.unblocking?]
  match c.unblocking? with
  | some e => ⟨arrival, s, .error (.system e)⟩
  | none =>
    match Peer.ofSocketAddress c.sender with
    | .error f => ⟨arrival, s, .error f⟩
    | .ok peer => ⟨arrival, s, .ok (some (conn, peer))⟩

def acceptItem (s : Listener) (item : Item Connection) : Turn Listener Accepted :=
  match item.delivery with
  | .ok c => .done (s.adopt c)
  | .error e =>
    let failure : Trace := [.acceptFailed s.endpoint.id e]
    if e.isTransient then .again failure s else .done ⟨failure, s, .error (.system e)⟩

def acceptTurn (s : Listener) : Turn Listener Accepted :=
  if s.token.cancelled then .done ⟨[], s, .ok none⟩
  else
    let w := s.poll
    let s := { s with token := w.token, endpoint := w.endpoint }
    match w.found with
    | .broken e => .done ⟨w.trace, s, .error (.system e)⟩
    | .refused f => .done ⟨w.trace, s, .error f⟩
    | .idle => .again w.trace s
    | .ready item =>
      let struck := s.token.strike item .call
      (({ s with token := struck.2 } : Listener).acceptItem item).after
        (w.trace ++ Trace.speak .debug .stream "Going to accept()" ++ struck.1)

theorem acceptItem_again {s next : Listener} {item : Item Connection} {trace : Trace}
    (h : s.acceptItem item = .again trace next) : next = s := by
  unfold acceptItem at h
  split at h
  · simp at h
  · simp only at h
    split at h
    · simp only [Turn.again.injEq] at h
      exact h.2.symm
    · simp at h

theorem shrinks_acceptTurn : Shrinks acceptTurn remaining := by
  intro s trace next h
  unfold acceptTurn at h
  split at h
  · simp at h
  · next hc =>
    have hlt := remaining_wait_lt size s.context.config.pollTimeout.toValue s.token
      s.endpoint (by simpa using hc)
    simp only at h
    split at h
    · simp at h
    · simp at h
    · simp only [Turn.again.injEq] at h
      obtain ⟨-, rfl⟩ := h
      exact hlt
    · next item hi =>
      obtain ⟨_, hr⟩ := Turn.after_eq_again h
      have hn := acceptItem_again hr
      subst hn
      have hw := s.poll.token.weight_strike_le item .call
      simp only [remaining, Network.remaining] at *
      simp only [poll] at *
      omega

def accept (s : Listener) : Ran Listener Accepted := loop acceptTurn remaining shrinks_acceptTurn s

def leave (s : Listener) (conn : Endpoint (List UInt8)) : Listener :=
  { s with connections := s.connections.map fun e => if e.id = conn.id then conn else e }

/-- The session on a connection, after which the connection is closed whatever came of it. -/
def serve (s : Listener) (conn : Endpoint (List UInt8)) (shown : String) : Ran Listener Bool :=
  let r := Session.run ⟨s.token, conn, s.context⟩
  let s := ({ s with token := r.state.token, context := r.state.context } : Listener).leave
    r.state.endpoint
  let closing : Trace := [.closed conn.id]
  match r.result with
  | .error f => ⟨r.trace ++ closing, s, .error f⟩
  | .ok true => ⟨r.trace ++ closing, s, .ok true⟩
  | .ok false =>
    ⟨r.trace ++ Trace.speak .warning .stream ("Session with " ++ shown ++ " ended with an error") ++
      closing, s, .ok true⟩

def welcome (s : Listener) (conn : Endpoint (List UInt8)) (peer : Option Peer) :
    Ran Listener Bool :=
  match Peer.shownOrUnknown peer with
  | .error f => ⟨[], s, .error f⟩
  | .ok shown => (s.serve conn shown).after (console ("Connection from " ++ shown))

/-- Accepts one connection and serves it. The result says whether the listening socket can still be
used. -/
def runOnce (s : Listener) : Ran Listener Bool :=
  let r := s.accept
  match r.result with
  | .ok none => ⟨r.trace, r.state, .ok true⟩
  | .ok (some (conn, peer)) => (r.state.welcome conn peer).after r.trace
  | .error (.system e) =>
    ⟨r.trace ++ Trace.speak .error .stream ("Error in accept(): " ++ e.message), r.state, .ok false⟩
  | .error f => ⟨r.trace, r.state, .error f⟩

end Listener

end SctpProbe.Stream
