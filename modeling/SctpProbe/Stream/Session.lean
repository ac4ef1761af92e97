import SctpProbe.HexDump
import SctpProbe.Loop
import SctpProbe.Stream.Echo
set_option autoImplicit false

namespace SctpProbe.Stream

open Network

structure Session where
  token : Token
  endpoint : Endpoint (List UInt8)
  context : Context

namespace Session

def remaining (s : Session) : Nat := Network.remaining List.length s.token s.endpoint

def poll (s : Session) : Waited (List UInt8) :=
  wait s.context.config.pollTimeout.toValue s.token s.endpoint

/-- What does not fit into the buffer comes with the next receive. -/
def deferred (room : Nat) (bytes : List UInt8) : List (Item (List UInt8)) :=
  match bytes.drop room with
  | [] => []
  | rest => [.delivering rest]

/-- Bytes have arrived: at most as many as there is room for are taken, and none means that the peer
has closed the connection. -/
def takeChunk (s : Session) (item : Item (List UInt8)) (bytes : List UInt8) : Turn Session Bool :=
  let room := s.context.room
  let count := (bytes.take room).length
  let s := { s with
    endpoint.script := deferred room bytes ++ s.endpoint.script
    context := s.context.store (bytes.take room) }
  let arrival : Trace := [.received s.endpoint.id room count]
  if count = 0 then .done ⟨arrival ++ console "Connection closed by the remote host", s, .ok true⟩
  else
    let chunk := s.context.received count
    let report := arrival ++ Trace.speak .info .stream ("Received " ++ toString count ++
      " bytes") ++
      console (HexDump.text "Received data" HexDump.usualWidth chunk)
    if s.context.echo.truthy then
      let e := echo s.context.config.sendTimeout s.endpoint.id item s.endpoint.sends s.token chunk
      let s := { s with token := e.token, endpoint.sends := e.sends }
      match e.result with
      | .ok _ => .again (report ++ e.trace) s
      | .error f => .done ⟨report ++ e.trace, s, .error f⟩
    else .again report s

def receive (s : Session) (item : Item (List UInt8)) : Turn Session Bool :=
  match item.delivery with
  | .ok bytes => s.takeChunk item bytes
  | .error e =>
    let failure : Trace := [.receiveFailed s.endpoint.id e]
    if e.isTransient then .again failure s
    else .done ⟨failure ++ Trace.speak .error .stream ("Error in recv(): " ++ e.message), s,
      .ok false⟩

def turn (s : Session) : Turn Session Bool :=
  if s.token.cancelled then .done ⟨[], s, .ok true⟩
  else
    let w := s.poll
    let s := { s with token := w.token, endpoint := w.endpoint }
    match w.found with
    | .broken e =>
      .done ⟨w.trace ++ Trace.speak .error .stream ("Error while waiting for data: " ++
        e.message), s,
        .ok false⟩
    | .refused f => .done ⟨w.trace, s, .error f⟩
    | .idle => .again w.trace s
    | .ready item =>
      let struck := s.token.strike item .call
      (({ s with token := struck.2 } : Session).receive item).after (w.trace ++ struck.1)

theorem load_deferred (room : Nat) (bytes : List UInt8) (h : 0 < (bytes.take room).length) :
    Item.loads List.length (deferred room bytes) ≤ bytes.length := by
  have hl := List.length_take (i := room) (l := bytes)
  have hd := List.length_drop (i := room) (l := bytes)
  unfold deferred
  split
  · simp [Item.loads]
  · simp only [Item.loads, Item.load, Item.delivering]
    omega

theorem remaining_takeChunk {s next : Session} {item : Item (List UInt8)} {bytes : List UInt8}
    {trace : Trace} (h : s.takeChunk item bytes = .again trace next) :
    next.remaining ≤ s.remaining + bytes.length := by
  unfold takeChunk at h
  simp only at h
  split at h
  · simp at h
  · next hc =>
    have hd := load_deferred s.context.room bytes (Nat.pos_of_ne_zero hc)
    have hw := weight_echo_le s.context.config.sendTimeout s.endpoint.id item
      s.endpoint.sends s.token
    split at h
    · split at h
      · simp only [Turn.again.injEq] at h
        obtain ⟨-, rfl⟩ := h
        have := hw ((s.context.store (bytes.take s.context.room)).received
          (bytes.take s.context.room).length)
        simp only [remaining, Network.remaining, Endpoint.load, Item.loads_append] at *
        simp only [Context.store] at *
        omega
      · simp at h
    · simp only [Turn.again.injEq] at h
      obtain ⟨-, rfl⟩ := h
      simp only [remaining, Network.remaining, Endpoint.load, Item.loads_append] at *
      omega

theorem remaining_receive {s next : Session} {item : Item (List UInt8)} {trace : Trace}
    (h : s.receive item = .again trace next) :
    next.remaining < s.remaining + item.load List.length := by
  unfold receive at h
  split at h
  · next bytes hd =>
    have hb := remaining_takeChunk h
    simp only [Item.load, Item.payload_of_delivery hd]
    omega
  · simp only at h
    split at h
    · simp only [Turn.again.injEq] at h
      obtain ⟨-, rfl⟩ := h
      simp only [Item.load]
      omega
    · simp at h

theorem shrinks_turn : Shrinks turn remaining := by
  intro s trace next h
  unfold turn at h
  split at h
  · simp at h
  · next hc =>
    have hlt := remaining_wait_lt List.length s.context.config.pollTimeout.toValue s.token
      s.endpoint (by simpa using hc)
    simp only at h
    split at h
    · simp at h
    · simp at h
    · simp only [Turn.again.injEq] at h
      obtain ⟨-, rfl⟩ := h
      exact hlt
    · next item hi =>
      obtain ⟨_, hr⟩ := Turn.after_eq_again h
      have hready := remaining_wait_ready List.length s.context.config.pollTimeout.toValue s.token
        s.endpoint item hi
      have hn := remaining_receive hr
      have hw := s.poll.token.weight_strike_le item .call
      simp only [remaining, Network.remaining] at *
      simp only [poll] at *
      omega

def run (s : Session) : Ran Session Bool := loop turn remaining shrinks_turn s

end Session

end SctpProbe.Stream
