import SctpProbe.Proofs.Sending
import SctpProbe.Proofs.Turns.Listener
import SctpProbe.Proofs.Turns.Mailbox
set_option autoImplicit false

/-!
What the loops leave alone. A loop on a socket shows nothing but lines, log entries, stops and the
traffic of that socket (`OnlyOn`), and of a context it changes nothing but the bytes in the buffer
(`Context.Kept`).
-/

namespace SctpProbe

open Network

/-- Whether an event is no affair of any other socket, and does not make, accept, set up or close
one. -/
def Network.Event.onlyOn (id : SocketId) : Event → Bool
  | .line _ => true
  | .log _ => true
  | .stopped => true
  | .signalled _ => true
  | .waited s _ _ => s == id
  | .acceptFailed s _ => s == id
  | .received s _ _ => s == id
  | .receiveFailed s _ => s == id
  | .receivedMessage s _ _ _ _ => s == id
  | .receiveMessageFailed s _ => s == id
  | .sent s _ => s == id
  | .sendFailed s _ => s == id
  | .sentMessage s _ _ _ _ _ => s == id
  | .ended s => s == id
  | _ => false

namespace Network.Trace

/-- A trace that shows the traffic of one socket only. -/
def OnlyOn (id : SocketId) (t : Trace) : Prop := ∀ e ∈ t, e.onlyOn id = true

variable {id : SocketId} {t u : Trace}

theorem onlyOn_nil : OnlyOn id [] := by simp [OnlyOn]

theorem onlyOn_append : OnlyOn id (t ++ u) ↔ OnlyOn id t ∧ OnlyOn id u := by
  simp [OnlyOn, or_imp, forall_and]

theorem onlyOn_singleton {e : Event} : OnlyOn id [e] ↔ e.onlyOn id = true := by
  simp [OnlyOn]

theorem onlyOn_speak (level : Log.Level) (speaker : Log.Speaker) (message : String) :
    OnlyOn id (speak level speaker message) := by
  simp [OnlyOn, speak, Event.onlyOn]

theorem onlyOn_console (text : String) : OnlyOn id (console text) := by
  intro e he
  simp only [console, List.mem_map] at he
  obtain ⟨l, -, rfl⟩ := he
  rfl

theorem closings_of_onlyOn (h : OnlyOn id t) (q : SocketId) : closings q t = 0 := by
  unfold closings
  rw [List.countP_eq_zero]
  intro e he
  have h0 := h e he
  cases e <;> simp_all [Event.onlyOn]

end Network.Trace

/-- The same context but for the bytes in the buffer. -/
structure Context.Kept (c d : Context) : Prop where
  config : d.config = c.config
  socket : d.socket? = c.socket?
  verbose : d.verbose = c.verbose
  echo : d.echo = c.echo
  room : d.room = c.room

namespace Context

theorem Kept.refl (c : Context) : Kept c c := ⟨rfl, rfl, rfl, rfl, rfl⟩

theorem Kept.trans {c d e : Context} (h : Kept c d) (k : Kept d e) : Kept c e :=
  ⟨k.config.trans h.config, k.socket.trans h.socket, k.verbose.trans h.verbose, k.echo.trans h.echo,
    k.room.trans h.room⟩

theorem kept_store (c : Context) (bs : List UInt8) (h : bs.length ≤ c.room) : Kept c (c.store bs) :=
  ⟨rfl, rfl, rfl, rfl, c.room_store bs h⟩

end Context

namespace Network

variable {α : Type}

theorem onlyOn_stops {id : SocketId} {t : Trace} (h : ∀ e ∈ t, e.isStop = true)
    (hid : ∀ s, .ended s ∈ t → s = id) : t.OnlyOn id := by
  intro e he
  have h0 := h e he
  cases e with
  | ended s =>
    have := hid s he
    simp [Event.onlyOn, this]
  | stopped => rfl
  | signalled n => rfl
  | _ => simp [Event.isStop] at h0

theorem Token.onlyOn_strike (t : Token) (i : Item α) (m : Moment) (id : SocketId) :
    Trace.OnlyOn id (t.strike i m).1 := by
  refine onlyOn_stops (t.isStop_strike i m) fun s hs => ?_
  simp only [strike, stopAt, signalAt, List.mem_append] at hs
  rcases hs with hs | hs
  · split at hs <;> simp at hs
  · repeat' split at hs
    all_goals simp at hs

theorem Endpoint.onlyOn_beginning (e : Endpoint α) (t : Token) :
    Trace.OnlyOn e.id (e.beginning t).1 := by
  unfold beginning
  split
  · simp [Trace.OnlyOn, Event.onlyOn]
  · exact t.onlyOn_strike _ .wait e.id

theorem onlyOn_wait (timeout : Value) (t : Token) (e : Endpoint α) :
    Trace.OnlyOn e.id (wait timeout t e).trace := by
  rcases wait_cases timeout t e with ⟨f, -, ht, -⟩ | ⟨o, -, ht, -⟩
  · rw [ht]
    exact e.onlyOn_beginning t
  · rw [ht, Trace.onlyOn_append]
    exact ⟨e.onlyOn_beginning t, by simp [Trace.OnlyOn, Event.onlyOn]⟩

end Network

namespace Stream

open Trace (onlyOn_append onlyOn_singleton onlyOn_speak onlyOn_console)

theorem onlyOn_echo (sendTimeout : Value) (id : SocketId) (item : Item (List UInt8))
    (sends : List Send) (token : Token) (bytes : List UInt8) :
    Trace.OnlyOn id (echo sendTimeout id item sends token bytes).trace := by
  have hcomposes : Composes fun _ u _ => Trace.OnlyOn id u :=
    ⟨fun _ => Trace.onlyOn_nil, fun h k => onlyOn_append.2 ⟨h, k⟩⟩
  refine composed_echo hcomposes _ _ _ (fun _ _ _ => onlyOn_speak _ _ _) fun t e he => ?_
  refine onlyOn_append.2 ⟨t.onlyOn_strike item .send id, onlyOn_singleton.2 ?_⟩
  cases he <;> simp [Event.onlyOn]

namespace Session

theorem length_chunk_le (s : Session) (bytes : List UInt8) :
    (s.chunk bytes).length ≤ s.context.room :=
  List.length_take_le _ _

theorem kept_taken (s : Session) (bytes : List UInt8) : s.context.Kept (s.taken bytes).context :=
  s.context.kept_store _ (s.length_chunk_le bytes)

theorem onlyOn_report (s : Session) (bytes : List UInt8) :
    Trace.OnlyOn s.endpoint.id (s.report bytes) := by
  have ha : Trace.OnlyOn s.endpoint.id
      [.received s.endpoint.id s.context.room (s.chunk bytes).length] := by
    simp [onlyOn_singleton, Event.onlyOn]
  exact onlyOn_append.2 ⟨onlyOn_append.2 ⟨ha, onlyOn_speak _ _ _⟩, onlyOn_console _⟩

@[simp] theorem id_polled (s : Session) : s.polled.endpoint.id = s.endpoint.id := by
  simp [polled, poll]

@[simp] theorem id_called (s : Session) (item : Item (List UInt8)) :
    (s.called item).endpoint.id = s.endpoint.id := by
  simp [called]

theorem onlyOn_poll (s : Session) : Trace.OnlyOn s.endpoint.id s.poll.trace := onlyOn_wait _ _ _

theorem onlyOn_approach (s : Session) (item : Item (List UInt8)) :
    Trace.OnlyOn s.endpoint.id (s.approach item) :=
  onlyOn_append.2 ⟨s.onlyOn_poll, s.poll.token.onlyOn_strike item .call _⟩

/-- What part of a session has left alone. -/
structure Frame (s : Session) (trace : Trace) (next : Session) : Prop where
  trace : trace.OnlyOn s.endpoint.id
  id : next.endpoint.id = s.endpoint.id
  context : s.context.Kept next.context

theorem Frame.trans {s mid last : Session} {t u : Trace} (h : Frame s t mid)
    (k : Frame mid u last) :
    Frame s (t ++ u) last := by
  have hu := k.trace
  rw [h.id] at hu
  exact ⟨onlyOn_append.2 ⟨h.trace, hu⟩, k.id.trans h.id, h.context.trans k.context⟩

theorem frame_polled (s : Session) : Frame s s.poll.trace s.polled :=
  ⟨s.onlyOn_poll, s.id_polled, .refl _⟩

theorem frame_called (s : Session) (item : Item (List UInt8)) :
    Frame s (s.approach item) (s.called item) :=
  ⟨s.onlyOn_approach item, s.id_called item, .refl _⟩

theorem frame_receipt_again {s next : Session} {item : Item (List UInt8)} {trace : Trace}
    (h : Receipt s item (.again trace next)) : Frame s trace next := by
  cases h with
  | retried hd ht => exact ⟨by simp [Trace.OnlyOn, Event.onlyOn], rfl, .refl _⟩
  | @dumped bytes hd hc he => exact ⟨s.onlyOn_report bytes, rfl, s.kept_taken bytes⟩
  | @echoed bytes hd hc he hr =>
    exact ⟨onlyOn_append.2 ⟨s.onlyOn_report bytes, onlyOn_echo _ _ _ _ _ _⟩, rfl,
      s.kept_taken bytes⟩

theorem frame_receipt_done {s : Session} {item : Item (List UInt8)} {ran : Ran Session Bool}
    (h : Receipt s item (.done ran)) : Frame s ran.trace ran.state := by
  cases h with
  | failed hd ht =>
    exact ⟨onlyOn_append.2 ⟨by simp [Trace.OnlyOn, Event.onlyOn], onlyOn_speak _ _ _⟩, rfl, .refl _⟩
  | @closed bytes hd hc =>
    exact ⟨onlyOn_append.2 ⟨by simp [Trace.OnlyOn, Event.onlyOn], onlyOn_console _⟩, rfl,
      s.kept_taken bytes⟩
  | @aborted bytes f hd hc he hr =>
    exact ⟨onlyOn_append.2 ⟨s.onlyOn_report bytes, onlyOn_echo _ _ _ _ _ _⟩, rfl,
      s.kept_taken bytes⟩

theorem frame_again {s next : Session} {trace : Trace} (h : s.turn = .again trace next) :
    Frame s trace next := by
  cases step_again h with
  | idle h hf => exact s.frame_polled
  | again h hf hr => exact (s.frame_called _).trans (frame_receipt_again hr)

theorem frame_done {s : Session} {ran : Ran Session Bool} (h : s.turn = .done ran) :
    Frame s ran.trace ran.state := by
  cases step_done h with
  | stopped h => exact ⟨Trace.onlyOn_nil, rfl, .refl _⟩
  | broken h hf => exact ⟨onlyOn_append.2 ⟨s.onlyOn_poll, onlyOn_speak _ _ _⟩, s.id_polled, .refl _⟩
  | refused h hf => exact s.frame_polled
  | done h hf hr => exact (s.frame_called _).trans (frame_receipt_done hr)

theorem frame_run (s : Session) : Frame s s.run.trace s.run.state := by
  refine loop_induction (fun s ran => Frame s ran.trace ran.state) ?_ ?_ s
  · intro s ran h
    exact frame_done h
  · intro s trace next ran h ih
    exact (frame_again h).trans ih

end Session

end Stream

namespace Messaging.Mailbox

open Trace (onlyOn_append onlyOn_singleton onlyOn_speak onlyOn_console)

theorem onlyOn_failureNote (id : SocketId) (reason : String) :
    Trace.OnlyOn id (failureNote reason) :=
  onlyOn_speak _ _ _

theorem onlyOn_report (id : SocketId) (c : Context) (p : Piece) (shown : String) :
    Trace.OnlyOn id (report c p shown) := by
  have hc : Trace.OnlyOn id (cutNote c.room p.flags) := by
    unfold cutNote
    split
    · exact Trace.onlyOn_nil
    · exact onlyOn_speak _ _ _
  have hi : Trace.OnlyOn id (informed p.control).1 := by
    unfold informed
    split
    · exact Trace.onlyOn_nil
    · exact onlyOn_speak _ _ _
  unfold report
  refine onlyOn_append.2 ⟨onlyOn_append.2 ⟨onlyOn_append.2 ⟨onlyOn_append.2
    ⟨onlyOn_console _, hc⟩, hi⟩, ?_⟩, onlyOn_console _⟩
  split
  · split
    · exact onlyOn_console _
    · exact Trace.onlyOn_nil
  · exact Trace.onlyOn_nil

structure Frame (s : Mailbox) (trace : Trace) (next : Mailbox) : Prop where
  trace : trace.OnlyOn s.endpoint.id
  id : next.endpoint.id = s.endpoint.id
  context : s.context.Kept next.context

theorem Frame.trans {s mid last : Mailbox} {t u : Trace} (h : Frame s t mid)
    (k : Frame mid u last) :
    Frame s (t ++ u) last := by
  have hu := k.trace
  rw [h.id] at hu
  exact ⟨onlyOn_append.2 ⟨h.trace, hu⟩, k.id.trans h.id, h.context.trans k.context⟩

theorem Frame.of_trace {s : Mailbox} {t : Trace} (h : t.OnlyOn s.endpoint.id) : Frame s t s :=
  ⟨h, rfl, .refl _⟩

theorem frame_echo (s : Mailbox) (item : Item Message) (p : Piece) (info? : Option DeliveryInfo) :
    Frame s (s.echo item p info?).trace (s.echo item p info?).state := by
  unfold echo
  split
  · exact .of_trace (onlyOn_failureNote _ _)
  · simp only
    split
    · exact .of_trace (onlyOn_speak _ _ _)
    · have hs := s.token.onlyOn_strike item .send s.endpoint.id
      refine ⟨?_, rfl, .refl _⟩
      simp only [onlyOn_append]
      refine ⟨⟨⟨onlyOn_speak _ _ _, hs⟩, ?_⟩, ?_⟩
      · simp [onlyOn_singleton, Event.onlyOn]
      · split
        · exact onlyOn_failureNote _ _
        · exact Trace.onlyOn_nil

theorem frame_handle (s : Mailbox) (item : Item Message) (p : Piece) :
    Frame s (s.handle item p).trace (s.handle item p).state := by
  have hh := s.handling item p
  generalize s.handle item p = ran at hh ⊢
  cases hh with
  | unshown h => exact .of_trace (onlyOn_speak _ _ _)
  | reported h he => exact .of_trace (onlyOn_append.2 ⟨onlyOn_speak _ _ _, onlyOn_report _ _ _ _⟩)
  | @echoed shown h he =>
    refine Frame.trans (.of_trace ?_) (s.frame_echo item p _)
    exact onlyOn_append.2 ⟨onlyOn_speak _ _ _, onlyOn_report _ _ _ _⟩

theorem length_piece_le (s : Mailbox) (m : Message) : (s.piece m).data.length ≤ s.context.room :=
  List.length_take_le _ _

theorem kept_taken (s : Mailbox) (m : Message) : s.context.Kept (s.taken m).context :=
  s.context.kept_store _ (s.length_piece_le m)

theorem frame_taken (s : Mailbox) (m : Message) : Frame s (s.arrival m) (s.taken m) :=
  ⟨by simp [arrival, onlyOn_singleton, Event.onlyOn], rfl, s.kept_taken m⟩

theorem frame_noted {s : Mailbox} {m : Message} {t : Trace} (h : t.OnlyOn s.endpoint.id) :
    Frame s (s.arrival m ++ t) (s.taken m) :=
  (s.frame_taken m).trans (.of_trace h)

theorem frame_receipt_again {s next : Mailbox} {item : Item Message} {trace : Trace}
    (h : Receipt s item (.again trace next)) : Frame s trace next := by
  cases h with
  | retried hd ht => exact .of_trace (by simp [onlyOn_singleton, Event.onlyOn])
  | notified hd hn => exact frame_noted (onlyOn_speak _ _ _)
  | closed hd hn hc => exact frame_noted (onlyOn_console _)
  | handled hd hn hc hr => exact (s.frame_taken _).trans (frame_handle _ _ _)

theorem frame_receipt_done {s : Mailbox} {item : Item Message} {ran : Ran Mailbox Bool}
    (h : Receipt s item (.done ran)) : Frame s ran.trace ran.state := by
  cases h with
  | failed hd ht =>
    exact .of_trace (onlyOn_append.2 ⟨by simp [onlyOn_singleton, Event.onlyOn], onlyOn_speak _ _ _⟩)
  | stuck hd hr hm => exact s.frame_taken _
  | faulted hd hn hc hr => exact (s.frame_taken _).trans (frame_handle _ _ _)

@[simp] theorem id_polled (s : Mailbox) : s.polled.endpoint.id = s.endpoint.id := by
  simp [polled, poll]

@[simp] theorem id_called (s : Mailbox) (item : Item Message) :
    (s.called item).endpoint.id = s.endpoint.id := s.id_polled

theorem frame_polled (s : Mailbox) : Frame s s.poll.trace s.polled :=
  ⟨onlyOn_wait _ _ _, s.id_polled, .refl _⟩

theorem frame_called (s : Mailbox) (item : Item Message) :
    Frame s (s.approach item) (s.called item) :=
  ⟨onlyOn_append.2 ⟨onlyOn_wait _ _ _, s.poll.token.onlyOn_strike item .call _⟩, s.id_polled,
    .refl _⟩

theorem frame_again {s next : Mailbox} {trace : Trace} (h : s.turn = .again trace next) :
    Frame s trace next := by
  cases step_again h with
  | idle h hf => exact s.frame_polled
  | again h hf hr => exact (s.frame_called _).trans (frame_receipt_again hr)

theorem frame_done {s : Mailbox} {ran : Ran Mailbox Bool} (h : s.turn = .done ran) :
    Frame s ran.trace ran.state := by
  cases step_done h with
  | stopped h => exact .of_trace Trace.onlyOn_nil
  | broken h hf =>
    exact s.frame_polled.trans (.of_trace (onlyOn_speak _ _ _))
  | refused h hf => exact s.frame_polled
  | done h hf hr => exact (s.frame_called _).trans (frame_receipt_done hr)

theorem frame_runOnce (s : Mailbox) : Frame s s.runOnce.trace s.runOnce.state := by
  refine loop_induction (fun s ran => Frame s ran.trace ran.state) ?_ ?_ s
  · intro s ran h
    exact frame_done h
  · intro s trace next ran h ih
    exact (frame_again h).trans ih

end Messaging.Mailbox

end SctpProbe
