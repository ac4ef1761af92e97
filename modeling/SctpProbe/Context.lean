import SctpProbe.Config
import SctpProbe.Network.Event
set_option autoImplicit false

namespace SctpProbe

open Network (SocketId Trace)

structure Context where
  config : Config
  socket? : Option SocketId
  buffer : List UInt8
  verbose : Value
  echo : Value
  deriving Repr

namespace Context

/-- The number of bytes of a new receive buffer. Only a whole number of bytes can be had. -/
def bufferLength (n : Number) : Except Fault Nat :=
  match n with
  | .bool b => .ok (Value.ofBool b).toNat
  | .int n => .ok n.toNat
  | .float _ => .error (.notBytes n.toValue.kindName "bytearray")

def ofConfig (c : Config) : Except Fault Context := do
  let n ← bufferLength c.bufferSize
  return ⟨c, none, List.replicate n 0, c.verbose, c.echo⟩

def room (c : Context) : Nat := c.buffer.length

theorem bufferLength_pos {n : Number} {k : Nat} (h : n.above 0 = true)
    (hk : bufferLength n = .ok k) :
    0 < k := by
  unfold bufferLength at hk
  cases n with
  | bool b =>
    cases b with
    | false => exact absurd h (by decide)
    | true =>
      simp only [Except.ok.injEq] at hk
      rw [← hk]
      decide
  | int n =>
    simp only [Except.ok.injEq] at hk
    have := Number.lt_of_above_int h
    omega
  | float x => simp at hk

/-- A context without a socket yet, with the switches of a configuration and a buffer as long as it
asks for. -/
structure Fresh (given : Config) (c : Context) : Prop where
  config : c.config = given
  socket : c.socket? = none
  verbose : c.verbose = given.verbose
  echo : c.echo = given.echo
  length : bufferLength given.bufferSize = .ok c.room

theorem fresh_of_ofConfig {config : Config} {c : Context} (h : ofConfig config = .ok c) :
    Fresh config c := by
  unfold ofConfig at h
  cases hb : bufferLength config.bufferSize with
  | error f => simp [hb, bind, Except.bind] at h
  | ok n =>
    simp only [hb, bind, Except.bind, pure, Except.pure, Except.ok.injEq] at h
    rw [← h]
    exact ⟨rfl, rfl, rfl, rfl, by simp [hb, room]⟩

theorem Fresh.room_pos {config : Config} {c : Context} (h : Fresh config c) : 0 < c.room := by
  have hw := config.bufferSize_within
  rw [Bool.and_eq_true] at hw
  exact bufferLength_pos hw.1 h.length

theorem Fresh.room_eq {config : Config} {c : Context} (h : Fresh config c) {n : Nat}
    (hn : bufferLength config.bufferSize = .ok n) : c.room = n :=
  Except.ok.inj (h.length.symm.trans hn)

/-- Bytes received go to the start of the buffer, over what was there. -/
def store (c : Context) (bs : List UInt8) : Context :=
  { c with buffer := bs ++ c.buffer.drop bs.length }

def received (c : Context) (count : Nat) : List UInt8 := c.buffer.take count

@[simp] theorem received_store (c : Context) (bs : List UInt8) :
    (c.store bs).received bs.length = bs := by
  simp [received, store]

theorem room_store (c : Context) (bs : List UInt8) (h : bs.length ≤ c.room) :
    (c.store bs).room = c.room := by
  simp only [room, store, List.length_append, List.length_drop] at *
  omega

def close (c : Context) : Trace × Context :=
  (match c.socket? with
    | some s => [.closed s]
    | none => [], { c with buffer := [] })

theorem Fresh.trace_close {config : Config} {c : Context} (h : Fresh config c) :
    c.close.1 = [] := by
  simp [close, h.socket]

end Context

end SctpProbe
