import SctpProbe.Proofs.Turns.Session
import SctpProbe.Stream.Listener
set_option autoImplicit false

namespace SctpProbe.Stream.Listener

open Network

def polled (s : Listener) : Listener :=
  { s with token := s.poll.token, endpoint := s.poll.endpoint }

def called (s : Listener) (item : Item Connection) : Listener :=
  { s.polled with token := (s.poll.token.strike item .call).2 }

def approach (s : Listener) (item : Item Connection) : Trace :=
  s.poll.trace ++ Trace.speak .debug .stream "Going to accept()" ++
    (s.poll.token.strike item .call).1

def nextId (s : Listener) : SocketId := .connection s.connections.length

def fresh (s : Listener) (c : Connection) : Endpoint (List UInt8) :=
  ⟨s.nextId, c.script, c.sends, false⟩

def adopted (s : Listener) (c : Connection) : Listener :=
  { s with connections := s.connections ++ [s.fresh c] }

def arrival (s : Listener) (c : Connection) : Trace :=
  [.accepted s.endpoint.id s.nextId c.sender, .unblocked s.nextId c.unblocking?]

inductive Acceptance (s : Listener) (item : Item Connection) : Turn Listener Accepted → Prop
  | retried {e : SystemError} (hd : item.delivery = .error e) (ht : e.isTransient = true) :
    Acceptance s item (.again [.acceptFailed s.endpoint.id e] s)
  | failed {e : SystemError} (hd : item.delivery = .error e) (ht : e.isTransient = false) :
    Acceptance s item (.done ⟨[.acceptFailed s.endpoint.id e], s, .error (.system e)⟩)
  | blocking {c : Connection} {e : SystemError} (hd : item.delivery = .ok c)
    (hu : c.unblocking? = some e) :
    Acceptance s item (.done ⟨s.arrival c, s.adopted c, .error (.system e)⟩)
  | nameless {c : Connection} {f : Fault} (hd : item.delivery = .ok c) (hu : c.unblocking? = none)
    (hp : Peer.ofSocketAddress c.sender = .error f) :
    Acceptance s item (.done ⟨s.arrival c, s.adopted c, .error f⟩)
  | taken {c : Connection} {peer : Option Peer} (hd : item.delivery = .ok c)
    (hu : c.unblocking? = none) (hp : Peer.ofSocketAddress c.sender = .ok peer) :
    Acceptance s item (.done ⟨s.arrival c, s.adopted c, .ok (some (s.fresh c, peer))⟩)

theorem acceptance (s : Listener) (item : Item Connection) :
    Acceptance s item (s.acceptItem item) := by
  unfold acceptItem
  split
  · next c hd =>
    unfold adopt
    simp only
    split
    · next e hu => exact .blocking hd hu
    · next hu =>
      split
      · next f hp => exact .nameless hd hu hp
      · next peer hp => exact .taken hd hu hp
  · next e hd =>
    simp only
    split
    · next ht => exact .retried hd ht
    · next ht => exact .failed hd (Bool.eq_false_iff.2 ht)

inductive Step (s : Listener) : Turn Listener Accepted → Prop
  | stopped (h : s.token.cancelled = true) : Step s (.done ⟨[], s, .ok none⟩)
  | broken {e : SystemError} (h : s.token.cancelled = false) (hf : s.poll.found = .broken e) :
    Step s (.done ⟨s.poll.trace, s.polled, .error (.system e)⟩)
  | refused {f : Fault} (h : s.token.cancelled = false) (hf : s.poll.found = .refused f) :
    Step s (.done ⟨s.poll.trace, s.polled, .error f⟩)
  | idle (h : s.token.cancelled = false) (hf : s.poll.found = .idle) :
    Step s (.again s.poll.trace s.polled)
  | again {item : Item Connection} {trace : Trace} {next : Listener} (h : s.token.cancelled = false)
    (hf : s.poll.found = .ready item) (ha : Acceptance (s.called item) item (.again trace next)) :
    Step s (.again (s.approach item ++ trace) next)
  | done {item : Item Connection} {ran : Ran Listener Accepted} (h : s.token.cancelled = false)
    (hf : s.poll.found = .ready item) (ha : Acceptance (s.called item) item (.done ran)) :
    Step s (.done (ran.after (s.approach item)))

theorem step (s : Listener) : Step s s.acceptTurn := by
  unfold acceptTurn
  split
  · next h => exact .stopped h
  · next h =>
    have h0 : s.token.cancelled = false := by simpa using h
    simp only
    split
    · next e hf => exact .broken h0 hf
    · next f hf => exact .refused h0 hf
    · next hf => exact .idle h0 hf
    · next item hf =>
      have ha := (s.called item).acceptance item
      change Step s (((s.called item).acceptItem item).after (s.approach item))
      cases ht : (s.called item).acceptItem item with
      | again trace next =>
        rw [ht] at ha
        exact .again h0 hf ha
      | done ran =>
        rw [ht] at ha
        exact .done h0 hf ha

theorem step_again {s next : Listener} {trace : Trace} (h : s.acceptTurn = .again trace next) :
    Step s (.again trace next) := h ▸ s.step

theorem step_done {s : Listener} {ran : Ran Listener Accepted} (h : s.acceptTurn = .done ran) :
    Step s (.done ran) := h ▸ s.step

def session (s : Listener) (conn : Endpoint (List UInt8)) : Ran Session Bool :=
  Session.run ⟨s.token, conn, s.context⟩

def served (s : Listener) (conn : Endpoint (List UInt8)) : Listener :=
  ({ s with token := (s.session conn).state.token, context := (s.session conn).state.context } :
    Listener).leave (s.session conn).state.endpoint

def verdict (result : Except Fault Bool) (shown : String) : Trace :=
  match result with
  | .ok false => Trace.speak .warning .stream ("Session with " ++ shown ++ " ended with an error")
  | _ => []

theorem serve_eq (s : Listener) (conn : Endpoint (List UInt8)) (shown : String) :
    s.serve conn shown = ⟨(s.session conn).trace ++ verdict (s.session conn).result shown ++
      [.closed conn.id], s.served conn, (s.session conn).result.map fun _ => true⟩ := by
  unfold serve
  rw [show Session.run ⟨s.token, conn, s.context⟩ = s.session conn from rfl]
  simp only
  split
  · next h =>
    simp only [h, verdict, Except.map, List.append_nil]
    rfl
  · next h =>
    simp only [h, verdict, Except.map, List.append_nil]
    rfl
  · next h =>
    simp only [h, verdict, Except.map]
    rfl

inductive Round (s : Listener) : Ran Listener Bool → Prop
  | stopped (h : s.accept.result = .ok none) : Round s ⟨s.accept.trace, s.accept.state, .ok true⟩
  | failed {e : SystemError} (h : s.accept.result = .error (.system e)) :
    Round s ⟨s.accept.trace ++ Trace.speak .error .stream ("Error in accept(): " ++ e.message),
      s.accept.state, .ok false⟩
  | faulted {f : Fault} (h : s.accept.result = .error f) (hf : ∀ e, f ≠ .system e) :
    Round s ⟨s.accept.trace, s.accept.state, .error f⟩
  | unshown {conn : Endpoint (List UInt8)} {peer : Option Peer} {f : Fault}
    (h : s.accept.result = .ok (some (conn, peer))) (hp : Peer.shownOrUnknown peer = .error f) :
    Round s ⟨s.accept.trace, s.accept.state, .error f⟩
  | served {conn : Endpoint (List UInt8)} {peer : Option Peer} {shown : String}
    (h : s.accept.result = .ok (some (conn, peer))) (hp : Peer.shownOrUnknown peer = .ok shown) :
    Round s (((s.accept.state.serve conn shown).after (console ("Connection from " ++ shown))).after
      s.accept.trace)

theorem rounding (s : Listener) : Round s s.runOnce := by
  unfold runOnce
  simp only
  split
  · next h => exact .stopped h
  · next conn peer h =>
    unfold welcome
    split
    · next f hp =>
      have hr := Round.unshown h hp
      simpa [Ran.after] using hr
    · next shown hp => exact .served h hp
  · next e h => exact .failed h
  · next f hf h => exact .faulted h hf

end SctpProbe.Stream.Listener
