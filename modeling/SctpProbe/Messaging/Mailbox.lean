import SctpProbe.Address.Peer
import SctpProbe.Context
import SctpProbe.HexDump
import SctpProbe.Loop
import SctpProbe.Network.Wait
set_option autoImplicit false

/-!
Message mode: one socket on which the messages of all peers arrive, each with the address of its
sender. A message that does not fit into the buffer is cut and its rest comes with the next read.
Every piece is reported and dumped, and sent back to its sender if that is wanted.
-/

namespace SctpProbe.Messaging

open Network

def endOfRecord : Int := 0x80

def notification : Int := 0x8000

def marked (mark flags : Int) : Bool := flags / mark % 2 == 1

def unmarked (mark flags : Int) : Int := if marked mark flags then flags - mark else flags

def subscription (id : SocketId) (failure? : Option SystemError) : Trace :=
  [.optionSet id sctp DeliveryInfo.eventsOption (.bytes DeliveryInfo.subscription) failure?]

/-- Asks for delivery information if it will be needed. If that fails nothing but the data of
messages will be reported. -/
def subscribe (id : SocketId) (failure? : Option SystemError) (c : Context) : Trace × Context :=
  if c.verbose.truthy || c.echo.truthy then
    let asked := subscription id failure?
    match failure? with
    | none => (asked, c)
    | some e =>
      (asked ++ Trace.speak .warning .message ("Unable to subscribe to SCTP IO events: " ++
      e.message),
        { c with verbose := .bool false })
  else ([], c)

structure Mailbox where
  token : Token
  endpoint : Endpoint Message
  context : Context

structure Piece where
  data : List UInt8
  sender : Value
  control : List ControlMessage
  flags : Int
  deriving Repr

def Piece.ofMessage (room : Nat) (m : Message) : Piece :=
  ⟨m.data.take room, m.sender, m.control,
    if room < m.data.length then unmarked endOfRecord m.flags else m.flags⟩

/-- The rest of a message, which comes as a message of its own. -/
def restOf (room : Nat) (m : Message) : List (Item Message) :=
  match m.data.drop room with
  | [] => []
  | rest => [.delivering { m with data := rest }]

namespace Mailbox

def size (m : Message) : Nat := m.data.length

def remaining (s : Mailbox) : Nat := Network.remaining size s.token s.endpoint

def poll (s : Mailbox) : Waited Message :=
  wait s.context.config.pollTimeout.toValue s.token s.endpoint

def failureNote (reason : String) : Trace :=
  Trace.speak .warning .message ("Error while echoing data: " ++ reason)

def replyFailure : List Send → Option SystemError
  | .fail e :: _ => some e
  | _ => none

def echo (s : Mailbox) (item : Item Message) (p : Piece) (info? : Option DeliveryInfo) :
    Ran Mailbox Unit :=
  if !p.sender.truthy then ⟨failureNote "sender address is unknown", s, .ok ()⟩
  else
    let start := Trace.speak .debug .message "Echoing data back"
    match DeliveryInfo.reply info? with
    | .error f => ⟨start, s, .error f⟩
    | .ok control =>
      let struck := s.token.strike item .send
      let failure? := replyFailure s.endpoint.sends
      let s := { s with token := struck.2, endpoint.sends := s.endpoint.sends.drop 1 }
      let sending : Trace := [.sentMessage s.endpoint.id p.data control 0 p.sender failure?]
      ⟨start ++ struck.1 ++ sending ++ (match failure? with
        | some e => failureNote e.message
        | none => []), s, .ok ()⟩

def cutNote (room : Nat) (flags : Int) : Trace :=
  if marked endOfRecord flags then []
  else Trace.speak .warning .message ("Message did not fit into the " ++ toString room ++
    " byte receive buffer, the rest follows in the next read")

def informed (control : List ControlMessage) : Trace × Option DeliveryInfo :=
  match DeliveryInfo.among control with
  | .ok info? => ([], info?)
  | .error f => (Trace.speak .warning .message ("Malformed sctp_sndrcvinfo: " ++ f.message), none)

def report (c : Context) (p : Piece) (shown : String) : Trace :=
  let info := informed p.control
  console ("Packet from " ++ shown ++ "  with " ++ toString p.data.length ++ " bytes of data") ++
    cutNote c.room p.flags ++ info.1 ++
    (match info.2 with
      | some d => if c.verbose.truthy then console d.description else []
      | none => []) ++
    console (HexDump.text "Received data" HexDump.usualWidth p.data)

def handle (s : Mailbox) (item : Item Message) (p : Piece) : Ran Mailbox Unit :=
  let noted := Trace.speak .debug .message ("Received " ++ toString p.data.length ++ " bytes")
  match Peer.display p.sender with
  | .error f => ⟨noted, s, .error f⟩
  | .ok shown =>
    let reported := noted ++ report s.context p shown
    if s.context.echo.truthy then (s.echo item p (informed p.control).2).after reported
    else ⟨reported, s, .ok ()⟩

/-- Deals with a message that has been read into the buffer. Without room for a single byte the rest
of it would come again and again. -/
def takePiece (s : Mailbox) (item : Item Message) (m : Message) : Turn Mailbox Bool :=
  let room := s.context.room
  let read := Piece.ofMessage room m
  let count := read.data.length
  let s := { s with
    endpoint.script := restOf room m ++ s.endpoint.script
    context := s.context.store read.data }
  let p := { read with data := s.context.received count }
  let arrival : Trace := [.receivedMessage s.endpoint.id room DeliveryInfo.controlRoom
    count p.flags]
  if room = 0 ∧ m.data ≠ [] then .done ⟨arrival, s, .error .endless⟩
  else if marked notification p.flags then
    .again (arrival ++ Trace.speak .debug .message ("Skipping SCTP notification of " ++
      toString count ++
      " bytes")) s
  else if count = 0 then .again (arrival ++ console "Connection closed by remote host") s
  else
    let r := s.handle item p
    match r.result with
    | .ok _ => .again (arrival ++ r.trace) r.state
    | .error f => .done ⟨arrival ++ r.trace, r.state, .error f⟩

def receive (s : Mailbox) (item : Item Message) : Turn Mailbox Bool :=
  match item.delivery with
  | .ok m => s.takePiece item m
  | .error e =>
    let failure : Trace := [.receiveMessageFailed s.endpoint.id e]
    if e.isTransient then .again failure s
    else
      .done ⟨failure ++ Trace.speak .error .message ("Error in recvmsg(): " ++ e.message), s,
        .ok false⟩

def turn (s : Mailbox) : Turn Mailbox Bool :=
  if s.token.cancelled then .done ⟨[], s, .ok true⟩
  else
    let w := s.poll
    let s := { s with token := w.token, endpoint := w.endpoint }
    match w.found with
    | .broken e =>
      .done ⟨w.trace ++ Trace.speak .error .message ("Error while waiting for data: " ++
        e.message), s,
        .ok false⟩
    | .refused f => .done ⟨w.trace, s, .error f⟩
    | .idle => .again w.trace s
    | .ready item =>
      let struck := s.token.strike item .call
      (({ s with token := struck.2 } : Mailbox).receive item).after (w.trace ++ struck.1)

theorem echo_state (s : Mailbox) (item : Item Message) (p : Piece) (info? : Option DeliveryInfo) :
    (s.echo item p info?).state.endpoint.script = s.endpoint.script ∧
      (s.echo item p info?).state.token.weight ≤ s.token.weight := by
  have h := s.token.weight_strike_le item .send
  unfold echo
  split
  · exact ⟨rfl, Nat.le_refl _⟩
  · simp only
    split
    · exact ⟨rfl, Nat.le_refl _⟩
    · exact ⟨rfl, h⟩

theorem handle_state (s : Mailbox) (item : Item Message) (p : Piece) :
    (s.handle item p).state.endpoint.script = s.endpoint.script ∧
      (s.handle item p).state.token.weight ≤ s.token.weight := by
  unfold handle
  simp only
  split
  · exact ⟨rfl, Nat.le_refl _⟩
  · split
    · exact s.echo_state item p _
    · exact ⟨rfl, Nat.le_refl _⟩

theorem load_restOf (room : Nat) (m : Message) (h : ¬ (room = 0 ∧ m.data ≠ [])) :
    Item.loads size (restOf room m) ≤ m.data.length := by
  have hd := List.length_drop (i := room) (l := m.data)
  unfold restOf
  split
  · simp [Item.loads]
  · next hne =>
    have h0 : m.data ≠ [] := by
      intro e
      apply hne
      simp [e]
    have hr : room ≠ 0 := fun e => h ⟨e, h0⟩
    have hl : 0 < m.data.length := List.length_pos_iff.2 h0
    simp only [Item.loads, Item.load, Item.delivering,
      size]
    omega

theorem remaining_takePiece {s next : Mailbox} {item : Item Message} {m : Message} {trace : Trace}
    (h : s.takePiece item m = .again trace next) :
    next.remaining ≤ s.remaining + m.data.length := by
  unfold takePiece at h
  simp only at h
  split at h
  · simp at h
  · next hc =>
    have hd := load_restOf s.context.room m hc
    split at h
    · simp only [Turn.again.injEq] at h
      obtain ⟨-, rfl⟩ := h
      simp only [remaining, Network.remaining, Endpoint.load, Item.loads_append] at *
      omega
    · split at h
      · simp only [Turn.again.injEq] at h
        obtain ⟨-, rfl⟩ := h
        simp only [remaining, Network.remaining, Endpoint.load, Item.loads_append] at *
        omega
      · split at h
        · simp only [Turn.again.injEq] at h
          obtain ⟨-, rfl⟩ := h
          have hs := handle_state { s with
            endpoint.script := restOf s.context.room m ++ s.endpoint.script
            context := s.context.store (Piece.ofMessage s.context.room m).data } item
            { Piece.ofMessage s.context.room m with
              data := (s.context.store (Piece.ofMessage s.context.room m).data).received
                (Piece.ofMessage s.context.room m).data.length }
          simp only [remaining, Network.remaining, Endpoint.load, hs.1, Item.loads_append] at *
          omega
        · simp at h

theorem remaining_receive {s next : Mailbox} {item : Item Message} {trace : Trace}
    (h : s.receive item = .again trace next) : next.remaining < s.remaining + item.load size := by
  unfold receive at h
  split at h
  · next m hd =>
    have hb := remaining_takePiece h
    simp only [Item.load, Item.payload_of_delivery hd, size]
    omega
  · simp only at h
    split at h
    · simp only [Turn.again.injEq] at h
      obtain ⟨-, rfl⟩ := h
      simp only [Item.load]
      omega
    · simp at h

theorem shrinks_turn : Shrinks turn remaining := by
  intro s trace next h
  unfold turn at h
  split at h
  · simp at h
  · next hc =>
    have hlt := remaining_wait_lt size s.context.config.pollTimeout.toValue s.token
      s.endpoint (by simpa using hc)
    simp only at h
    split at h
    · simp at h
    · simp at h
    · simp only [Turn.again.injEq] at h
      obtain ⟨-, rfl⟩ := h
      exact hlt
    · next item hi =>
      obtain ⟨_, hr⟩ := Turn.after_eq_again h
      have hready := remaining_wait_ready size s.context.config.pollTimeout.toValue s.token
        s.endpoint item hi
      have hn := remaining_receive hr
      have hw := s.poll.token.weight_strike_le item .call
      simp only [remaining, Network.remaining] at *
      simp only [poll] at *
      omega

/-- Services the socket until the server is to stop. The result says whether the socket can still be
used. -/
def runOnce (s : Mailbox) : Ran Mailbox Bool := loop turn remaining shrinks_turn s

end Mailbox

end SctpProbe.Messaging
