import SctpProbe.Context
import SctpProbe.Network.Wait
set_option autoImplicit false

/-!
Sending a chunk back over a connection. Whatever a call does not take is sent again as soon as the
socket can be written, until all is gone, a call fails for good, or the socket stays blocked for too
long. A timeout too short for a clock leaves time for a single call. A failure is reported as a
warning and changes nothing else.
-/

namespace SctpProbe.Stream

open Network

inductive Delivery
  | whole
  | failed (error : SystemError)
  | stalled
  deriving DecidableEq, Repr

structure Transmission where
  trace : Trace
  token : Token
  sends : List Send
  delivery : Delivery

/-- A socket that has been waited for is still watched for a moment after the last call. If it is to
stall next, it does so then, and nobody notices. -/
def settle (waiting : Bool) : List Send → List Send
  | .stall :: rest => if waiting then rest else .stall :: rest
  | sends => sends

/-- Sends bytes, call after call, or only once if it has to be done in an instant. `waiting` says
that the socket has to become writable first, which a stalled one never does. -/
def transmit (id : SocketId) (item : Item (List UInt8)) (instant waiting : Bool) (sends : List Send)
    (token : Token) (bytes : List UInt8) : Transmission :=
  let struck := token.strike item .send
  if instant && waiting then ⟨[], token, settle true sends, .stalled⟩
  else
    match sends with
    | [] => ⟨struck.1 ++ [.sent id bytes], struck.2, [], .whole⟩
    | .stall :: rest =>
      if waiting then ⟨[], token, rest, .stalled⟩
      else ⟨struck.1 ++ [.sendFailed id .wouldBlock], struck.2, rest, .stalled⟩
    | .accept count :: rest =>
      if bytes.length ≤ count then
        ⟨struck.1 ++ [.sent id bytes], struck.2, settle waiting rest, .whole⟩
      else
        let later := transmit id item instant true rest struck.2 (bytes.drop count)
        { later with trace := struck.1 ++ [.sent id (bytes.take count)] ++ later.trace }
    | .block :: rest =>
      let later := transmit id item instant true rest struck.2 bytes
      { later with trace := struck.1 ++ [.sendFailed id .wouldBlock] ++ later.trace }
    | .fail e :: rest =>
      if e.isTransient then
        let later := transmit id item instant true rest struck.2 bytes
        { later with trace := struck.1 ++ [.sendFailed id e] ++ later.trace }
      else ⟨struck.1 ++ [.sendFailed id e], struck.2, settle waiting rest, .failed e⟩

theorem weight_transmit_le (id : SocketId) (item : Item (List UInt8)) (instant waiting : Bool)
    (sends : List Send) (token : Token) (bytes : List UInt8) :
    (transmit id item instant waiting sends token bytes).token.weight ≤ token.weight := by
  induction sends generalizing waiting token bytes with
  | nil =>
    simp only [transmit]
    split
    · exact Nat.le_refl _
    · exact token.weight_strike_le item .send
  | cons s rest ih =>
    have h := token.weight_strike_le item .send
    unfold transmit
    simp only
    split
    · exact Nat.le_refl _
    · cases s with
      | stall =>
        simp only
        split
        · exact Nat.le_refl _
        · exact h
      | accept count =>
        simp only
        split
        · exact h
        · exact Nat.le_trans (ih ..) h
      | block => exact Nat.le_trans (ih ..) h
      | fail e =>
        simp only
        split
        · exact Nat.le_trans (ih ..) h
        · exact h

structure Echoed where
  trace : Trace
  token : Token
  sends : List Send
  result : Except Fault Unit

def failureNote (reason : String) : Trace :=
  Trace.speak .warning .stream ("send() failed while echoing received data: " ++ reason)

/-- Sends a chunk back within the send timeout. A timeout that has passed already lets nothing be
sent, and without one a stalled socket is waited for in vain. -/
def echo (sendTimeout : Value) (id : SocketId) (item : Item (List UInt8)) (sends : List Send)
    (token : Token) (bytes : List UInt8) : Echoed :=
  let start := Trace.speak .debug .stream "Echoing data back"
  match Limit.ofValue sendTimeout with
  | .error f => ⟨start, token, sends, .error f⟩
  | .ok .expired => ⟨start ++ failureNote "", token, sends, .ok ()⟩
  | .ok limit =>
    let r := transmit id item (limit = .instant) false sends token bytes
    match r.delivery with
    | .whole => ⟨start ++ r.trace, r.token, r.sends, .ok ()⟩
    | .failed e => ⟨start ++ r.trace ++ failureNote e.message, r.token, r.sends, .ok ()⟩
    | .stalled =>
      if limit = .never then ⟨start ++ r.trace, r.token, r.sends, .error .endless⟩
      else ⟨start ++ r.trace ++ failureNote "", r.token, r.sends, .ok ()⟩

theorem weight_echo_le (sendTimeout : Value) (id : SocketId) (item : Item (List UInt8))
    (sends : List Send) (token : Token) (bytes : List UInt8) :
    (echo sendTimeout id item sends token bytes).token.weight ≤ token.weight := by
  have h := fun instant => weight_transmit_le id item instant false sends token bytes
  simp only [echo]
  repeat' split
  all_goals first | exact Nat.le_refl _ | exact h _

end SctpProbe.Stream
