import SctpProbe.Proofs.Buffers.Holding
import SctpProbe.Proofs.Terminating
set_option autoImplicit false

namespace SctpProbe

open Network

def Number.whole? : Number → Option Int
  | .bool b => some (Value.ofBool b)
  | .int n => some n
  | .float _ => none

theorem Config.length_of_whole {config : Config} {size : Int}
    (h : config.bufferSize.whole? = some size) :
    0 < size ∧ Context.bufferLength config.bufferSize = .ok size.toNat := by
  have hw := config.bufferSize_within
  rw [Bool.and_eq_true] at hw
  have hlength : Context.bufferLength config.bufferSize = .ok size.toNat := by
    generalize config.bufferSize = n at h
    cases n with
    | bool b =>
      cases h
      rfl
    | int n =>
      cases h
      rfl
    | float x => simp [Number.whole?] at h
  have hpos := Context.bufferLength_pos hw.1 hlength
  exact ⟨by omega, hlength⟩

namespace Network

/-- What follows a read of a session: that it brought something, or that the peer is gone. -/
def heard (count : Nat) : Trace :=
  if count = 0 then console "Connection closed by the remote host"
  else Trace.speak .info .stream ("Received " ++ toString count ++ " bytes")

def heardMessage (count : Nat) (flags : Int) : Trace :=
  if Messaging.marked Messaging.notification flags then
    Trace.speak .debug .message ("Skipping SCTP notification of " ++ toString count ++ " bytes")
  else if count = 0 then console "Connection closed by remote host"
  else Trace.speak .debug .message ("Received " ++ toString count ++ " bytes")

section

variable {count : Nat} {flags : Int}

theorem heardMessage_notification (hn : Messaging.marked Messaging.notification flags = true) :
    heardMessage count flags = Trace.speak .debug .message
      ("Skipping SCTP notification of " ++ toString count ++ " bytes") :=
  if_pos hn

theorem heardMessage_zero (hn : Messaging.marked Messaging.notification flags = false) :
    heardMessage 0 flags = console "Connection closed by remote host" := by
  rw [heardMessage, hn, if_neg Bool.false_ne_true, if_pos rfl]

theorem heardMessage_of_ne_zero (hn : Messaging.marked Messaging.notification flags = false)
    (hc : count ≠ 0) : heardMessage count flags =
      Trace.speak .debug .message ("Received " ++ toString count ++ " bytes") := by
  rw [heardMessage, hn, if_neg Bool.false_ne_true, if_neg hc]

end

def Event.isRead : Event → Bool
  | .received _ _ _ => true
  | .receivedMessage _ _ _ _ _ => true
  | _ => false

/-- A read asks for `room` bytes and gets no more; it gets none only on a socket where `empty` says
that nothing may come, and what it got is told next. -/
def Event.Measured (room : Nat) (empty : SocketId → Prop) (after : Trace) : Event → Prop
  | .received id asked count =>
    asked = room ∧ count ≤ room ∧ (count = 0 → empty id) ∧ heard count <+: after
  | .receivedMessage id asked _ count flags =>
    asked = room ∧ count ≤ room ∧ (count = 0 → empty id) ∧ heardMessage count flags <+: after
  | _ => True

namespace Trace

def Measured (room : Nat) (empty : SocketId → Prop) (t : Trace) : Prop :=
  ∀ before e after, t = before ++ e :: after → e.Measured room empty after

def Unread (t : Trace) : Prop := ∀ e ∈ t, e.isRead = false

variable {room : Nat} {empty : SocketId → Prop} {t u : Trace}

theorem unread_append : Unread (t ++ u) ↔ Unread t ∧ Unread u := List.forall_mem_append

theorem unread_singleton {e : Event} : Unread [e] ↔ e.isRead = false := by simp [Unread]

theorem unread_of_calm (h : t.Calm) : t.Unread := by
  intro e he
  have h0 := h e he
  cases e <;> simp_all [Event.role, Role.calm, Event.isRead]

theorem unread_speak (level : Log.Level) (speaker : Log.Speaker) (message : String) :
    Unread (speak level speaker message) :=
  unread_of_calm (calm_speak _ _ _)

theorem unread_console (text : String) : Unread (console text) :=
  unread_of_calm (still_console _).calm

theorem unread_wait {α : Type} (timeout : Value) (token : Token) (e : Endpoint α) :
    Unread (wait timeout token e).trace := by
  have hb : Unread (e.beginning token).1 := unread_of_calm (calm_stops (e.isStop_beginning token))
  rcases wait_cases timeout token e with ⟨_, -, ht, -⟩ | ⟨_, -, ht, -⟩
  · rwa [ht]
  · rw [ht]
    exact unread_append.2 ⟨hb, unread_singleton.2 rfl⟩

theorem unread_strike {α : Type} (token : Token) (i : Item α) (m : Moment) :
    Unread (token.strike i m).1 :=
  unread_of_calm (calm_stops (token.isStop_strike i m))

theorem measured_of_unread (h : t.Unread) : Measured room empty t := by
  rintro before e after rfl
  have he := h e (by simp)
  cases e with
  | received => simp [Event.isRead] at he
  | receivedMessage => simp [Event.isRead] at he
  | _ => trivial

theorem Measured.append (h : Measured room empty t) (k : Measured room empty u) :
    Measured room empty (t ++ u) := by
  intro before e after hsplit
  rcases split_append hsplit with ⟨rest, ht, rfl⟩ | ⟨rest, -, hu⟩
  · have he := h before e rest ht
    cases e with
    | received =>
      obtain ⟨hasked, hfits, hempty, hheard⟩ := he
      exact ⟨hasked, hfits, hempty, hheard.trans (List.prefix_append _ _)⟩
    | receivedMessage =>
      obtain ⟨hasked, hfits, hempty, hheard⟩ := he
      exact ⟨hasked, hfits, hempty, hheard.trans (List.prefix_append _ _)⟩
    | _ => trivial
  · exact k rest e after hu

theorem measured_read {e : Event} {rest : Trace} (he : e.Measured room empty rest)
    (hrest : rest.Unread) : Measured room empty (e :: rest) := by
  intro before x after hsplit
  cases before with
  | nil =>
    obtain ⟨rfl, rfl⟩ := List.cons.inj hsplit
    exact he
  | cons y before =>
    obtain ⟨-, rfl⟩ := List.cons.inj hsplit
    exact measured_of_unread hrest before x after rfl

end Trace

end Network

section

open Trace (unread_append unread_speak unread_console unread_wait unread_strike
  measured_of_unread measured_read)

variable {empty : SocketId → Prop}

namespace Stream

namespace Session

variable {s next : Session} {item : Item (List UInt8)} {bytes : List UInt8} {trace : Trace}
  {ran : Ran Session Bool}

/-- A chunk is empty only if the payload is, as there is room for a byte. -/
theorem chunk_eq_nil (hroom : 0 < s.context.room) : s.chunk bytes = [] ↔ bytes = [] := by
  rw [chunk, List.take_eq_nil_iff]
  exact or_iff_right (Nat.ne_of_gt hroom)

/-- Where an empty payload is still to come, `empty` says so. -/
def Foretold (empty : SocketId → Prop) (s : Session) : Prop :=
  Within (fun bytes => bytes = [] → empty s.endpoint.id) s.endpoint.script

theorem foretold_again (h : s.turn = .again trace next) (hs : s.Foretold empty) :
    next.Foretold empty := by
  unfold Foretold
  rw [(frame_again h).id]
  refine items_again ?_ h hs
  rintro i bytes data - - hne - payload ⟨⟩ hempty
  exact absurd hempty hne

theorem unread_approach (s : Session) (item : Item (List UInt8)) : (s.approach item).Unread :=
  unread_append.2 ⟨unread_wait _ _ _, unread_strike _ _ _⟩

theorem measured_report (s : Session) (bytes : List UInt8) (hne : s.chunk bytes ≠ [])
    {rest : Trace} (hrest : rest.Unread) :
    (s.report bytes ++ rest).Measured s.context.room empty := by
  have hcount : (s.chunk bytes).length ≠ 0 := fun h => hne (List.length_eq_zero_iff.1 h)
  have hheard : heard (s.chunk bytes).length =
      Trace.speak .info .stream ("Received " ++ toString (s.chunk bytes).length ++ " bytes") :=
    if_neg hcount
  simp only [report, List.append_assoc, List.singleton_append]
  refine measured_read ⟨rfl, s.length_chunk_le bytes, fun h => absurd h hcount, ?_⟩
    (unread_append.2 ⟨unread_speak _ _ _, unread_append.2 ⟨unread_console _, hrest⟩⟩)
  rw [hheard]
  exact List.prefix_append _ _

theorem measured_receipt_again (h : Receipt s item (.again trace next)) :
    trace.Measured s.context.room empty := by
  cases h with
  | retried => exact measured_of_unread (Trace.unread_singleton.2 rfl)
  | @dumped bytes _ hc =>
    have hm := @measured_report empty s bytes hc [] (by simp [Trace.Unread])
    rwa [List.append_nil] at hm
  | @echoed bytes _ hc =>
    exact s.measured_report bytes hc (Trace.unread_of_calm (calm_echo _ _ _ _ _ _))

theorem measured_receipt_done (hroom : 0 < s.context.room)
    (hempty : ∀ bytes, item.delivery = .ok bytes → bytes = [] → empty s.endpoint.id)
    (h : Receipt s item (.done ran)) : ran.trace.Measured s.context.room empty := by
  cases h with
  | failed =>
    exact measured_of_unread (unread_append.2 ⟨Trace.unread_singleton.2 rfl, unread_speak _ _ _⟩)
  | @closed bytes hd hc =>
    have hnothing := (chunk_eq_nil hroom).1 hc
    exact measured_read ⟨rfl, Nat.zero_le _, fun _ => hempty bytes hd hnothing,
      List.prefix_refl _⟩ (unread_console _)
  | @aborted bytes _ _ hc =>
    exact s.measured_report bytes hc (Trace.unread_of_calm (calm_echo _ _ _ _ _ _))

theorem measured_again (h : s.turn = .again trace next) :
    trace.Measured s.context.room empty := by
  cases step_again h with
  | idle => exact measured_of_unread (unread_wait _ _ _)
  | @again item rest _ _ _ hr =>
    have hm : rest.Measured (s.called item).context.room empty := measured_receipt_again hr
    exact (measured_of_unread (s.unread_approach item)).append hm

theorem measured_done (hroom : 0 < s.context.room) (hs : s.Foretold empty)
    (h : s.turn = .done ran) : ran.trace.Measured s.context.room empty := by
  cases step_done h with
  | stopped => exact measured_of_unread (by simp [Trace.Unread])
  | broken => exact measured_of_unread (unread_append.2 ⟨unread_wait _ _ _, unread_speak _ _ _⟩)
  | refused => exact measured_of_unread (unread_wait _ _ _)
  | @done item ran _ hf hr =>
    have hm : ran.trace.Measured (s.called item).context.room empty := by
      refine measured_receipt_done hroom (fun bytes hd => ?_) hr
      rw [id_called]
      exact source_of_ready hs hf hd
    exact (measured_of_unread (s.unread_approach item)).append hm

theorem measured_run (s : Session) : 0 < s.context.room → s.Foretold empty →
    s.run.trace.Measured s.context.room empty := by
  refine loop_induction (fun s ran => 0 < s.context.room → s.Foretold empty →
    ran.trace.Measured s.context.room empty) ?_ ?_ s
  · intro s ran h hroom hs
    exact measured_done hroom hs h
  · intro s trace next ran h ih hroom hs
    have hkept := (frame_again h).context.room
    rw [hkept] at ih
    exact (measured_again h).append (ih hroom (foretold_again h hs))

end Session

namespace Listener

variable {s : Listener} {ran : Ran Listener Bool}

theorem unread_arrival (s : Listener) (c : Connection) : (s.arrival c).Unread := by
  simp [Trace.Unread, arrival, Event.isRead]

theorem unread_accept (s : Listener) : s.accept.trace.Unread := by
  have happroach : ∀ (s : Listener) item, (s.approach item).Unread := fun s item =>
    unread_append.2 ⟨unread_append.2 ⟨unread_wait _ _ _, unread_speak _ _ _⟩, unread_strike _ _ _⟩
  refine loop_induction (fun _ ran => ran.trace.Unread) ?_ ?_ s
  · intro s ran h
    cases step_done h with
    | stopped => simp [Trace.Unread]
    | broken => exact unread_wait _ _ _
    | refused => exact unread_wait _ _ _
    | done _ _ ha =>
      refine unread_append.2 ⟨happroach s _, ?_⟩
      cases ha with
      | failed => exact Trace.unread_singleton.2 rfl
      | blocking => exact unread_arrival _ _
      | nameless => exact unread_arrival _ _
      | taken => exact unread_arrival _ _
  · intro s trace next ran h ih
    refine unread_append.2 ⟨?_, ih⟩
    cases step_again h with
    | idle => exact unread_wait _ _ _
    | again _ _ ha =>
      refine unread_append.2 ⟨happroach s _, ?_⟩
      cases ha with
      | retried => exact Trace.unread_singleton.2 rfl

def Foretold (empty : SocketId → Prop) (s : Listener) : Prop :=
  ∀ k c, s.endpoint.ahead[k]? = some c → ∀ i ∈ c.script, i.payload? = some [] →
    empty (.connection (s.connections.length + k))

theorem foretold_round (hs : s.Foretold empty) (hr : Round s ran) (hok : ran.result = .ok true) :
    ran.state.Foretold empty := by
  obtain ⟨hahead, hlength⟩ := ahead_round hr hok
  intro k c hc i hi hp
  rw [hahead, List.getElem?_drop] at hc
  rw [hlength, Nat.add_assoc]
  exact hs _ c hc i hi hp

theorem foretold_accept (hs : s.Foretold empty) {conn : Endpoint (List UInt8)} {peer : Option Peer}
    (h : s.accept.result = .ok (some (conn, peer))) :
    Session.Foretold empty ⟨s.accept.state.token, conn, s.accept.state.context⟩ := by
  obtain ⟨c, hahead, rfl, -⟩ := first_of_accept h
  intro i hi bytes hp hnothing
  exact hs 0 c (by simp [hahead]) i hi (by rw [hp, hnothing])

theorem measured_round (hroom : 0 < s.context.room) (hs : s.Foretold empty) (hr : Round s ran) :
    ran.trace.Measured s.context.room empty := by
  have ha : s.accept.trace.Measured s.context.room empty := measured_of_unread s.unread_accept
  cases hr with
  | stopped => exact ha
  | failed => exact ha.append (measured_of_unread (unread_speak _ _ _))
  | faulted => exact ha
  | unshown => exact ha
  | @served conn peer shown h =>
    have hkept := s.lasting_accept.context.room
    have hrun := Session.measured_run ⟨s.accept.state.token, conn, s.accept.state.context⟩
      (hkept ▸ hroom) (foretold_accept hs h)
    have hverdict := Trace.unread_of_calm
      (still_verdict (s.accept.state.session conn).result shown).calm
    have hclosed : Trace.Unread [.closed conn.id] := Trace.unread_singleton.2 rfl
    simp only [hkept] at hrun
    rw [Ran.trace_after, Ran.trace_after, serve_eq]
    exact ha.append ((measured_of_unread (unread_console _)).append
      ((hrun.append (measured_of_unread hverdict)).append (measured_of_unread hclosed)))

theorem measured_service (s : Listener) : 0 < s.context.room → s.Foretold empty →
    s.service.trace.Measured s.context.room empty := by
  refine service_induction (fun s ran => 0 < s.context.room → s.Foretold empty →
    ran.trace.Measured s.context.room empty) ?_ ?_ ?_ s
  · intro s _ _ _
    exact measured_of_unread (by simp [Trace.Unread])
  · intro s _ _ hroom hs
    exact measured_round hroom hs s.rounding
  · intro s ran _ hr ih hroom hs
    have hkept := (lasting_round s.rounding).context.room
    rw [hkept] at ih
    exact (measured_round hroom hs s.rounding).append (ih hroom (foretold_round hs s.rounding hr))

end Listener

end Stream

namespace Messaging.Mailbox

variable {s next : Mailbox} {item : Item Message} {m : Message} {trace : Trace}
  {ran : Ran Mailbox Bool}

theorem piece_eq_nil (hroom : 0 < s.context.room) : (s.piece m).data = [] ↔ m.data = [] := by
  rw [piece, Piece.ofMessage, List.take_eq_nil_iff]
  exact or_iff_right (Nat.ne_of_gt hroom)

def Foretold (empty : SocketId → Prop) (s : Mailbox) : Prop :=
  ∀ i ∈ s.endpoint.script, ∀ m, i.payload? = some m → m.data = [] → empty s.endpoint.id

theorem foretold_again (h : s.turn = .again trace next) (hs : s.Foretold empty) :
    next.Foretold empty := by
  unfold Foretold
  rw [(frame_again h).id]
  refine items_again ?_ h hs
  rintro i m data - - hne m' ⟨⟩ hempty
  exact absurd hempty hne

theorem empty_of_ready (hs : s.Foretold empty) (hf : s.poll.found = .ready item)
    (hd : item.delivery = .ok m) : m.data = [] → empty s.endpoint.id :=
  hs item ((wait_of_ready hf).2.1 ▸ List.mem_cons_self) m (Item.payload_of_delivery hd)

theorem unread_approach (s : Mailbox) (item : Item Message) : (s.approach item).Unread :=
  unread_append.2 ⟨unread_wait _ _ _, unread_strike _ _ _⟩

theorem measured_arrival (hroom : 0 < s.context.room)
    (hempty : m.data = [] → empty s.endpoint.id) {rest : Trace}
    (hheard : heardMessage (s.piece m).data.length (s.piece m).flags <+: rest)
    (hrest : rest.Unread) : (s.arrival m ++ rest).Measured s.context.room empty :=
  measured_read ⟨rfl, s.length_piece_le m, fun h =>
    hempty ((piece_eq_nil hroom).1 (List.length_eq_zero_iff.1 h)), hheard⟩ hrest

theorem handle_heard (s : Mailbox) (item : Item Message) {p : Piece} (hne : p.data ≠ [])
    (hn : marked notification p.flags = false) :
    heardMessage p.data.length p.flags <+: (s.handle item p).trace := by
  have hcount : p.data.length ≠ 0 := fun h => hne (List.length_eq_zero_iff.1 h)
  have hh := s.handling item p
  generalize s.handle item p = ran at hh ⊢
  rw [heardMessage_of_ne_zero hn hcount]
  cases hh with
  | unshown => exact List.prefix_refl _
  | reported => exact List.prefix_append _ _
  | echoed =>
    rw [Ran.trace_after, List.append_assoc]
    exact List.prefix_append _ _

theorem measured_receipt_again (hroom : 0 < s.context.room)
    (hempty : ∀ m, item.delivery = .ok m → m.data = [] → empty s.endpoint.id)
    (h : Receipt s item (.again trace next)) : trace.Measured s.context.room empty := by
  cases h with
  | retried => exact measured_of_unread (Trace.unread_singleton.2 rfl)
  | @notified m hd hn =>
    exact measured_arrival hroom (hempty m hd) (heardMessage_notification hn ▸ List.prefix_refl _)
      (unread_speak _ _ _)
  | @closed m hd hn hc =>
    have hheard : heardMessage (s.piece m).data.length (s.piece m).flags =
        console "Connection closed by remote host" := by
      rw [hc]
      exact heardMessage_zero hn
    exact measured_arrival hroom (hempty m hd) (hheard ▸ List.prefix_refl _) (unread_console _)
  | @handled m hd hn hc =>
    exact measured_arrival hroom (hempty m hd) (handle_heard _ item hc hn)
      (Trace.unread_of_calm (calm_handle _ _ _))

theorem measured_receipt_done (hroom : 0 < s.context.room)
    (hempty : ∀ m, item.delivery = .ok m → m.data = [] → empty s.endpoint.id)
    (h : Receipt s item (.done ran)) : ran.trace.Measured s.context.room empty := by
  cases h with
  | failed =>
    exact measured_of_unread (unread_append.2 ⟨Trace.unread_singleton.2 rfl, unread_speak _ _ _⟩)
  | stuck _ hr => exact absurd hr (Nat.ne_of_gt hroom)
  | @faulted m _ hd hn hc =>
    exact measured_arrival hroom (hempty m hd) (handle_heard _ item hc hn)
      (Trace.unread_of_calm (calm_handle _ _ _))

theorem measured_again (hroom : 0 < s.context.room) (hs : s.Foretold empty)
    (h : s.turn = .again trace next) : trace.Measured s.context.room empty := by
  cases step_again h with
  | idle => exact measured_of_unread (unread_wait _ _ _)
  | @again item rest _ _ hf hr =>
    have hm : rest.Measured (s.called item).context.room empty := by
      refine measured_receipt_again hroom (fun m hd => ?_) hr
      rw [id_called]
      exact empty_of_ready hs hf hd
    exact (measured_of_unread (s.unread_approach item)).append hm

theorem measured_done (hroom : 0 < s.context.room) (hs : s.Foretold empty)
    (h : s.turn = .done ran) : ran.trace.Measured s.context.room empty := by
  cases step_done h with
  | stopped => exact measured_of_unread (by simp [Trace.Unread])
  | broken => exact measured_of_unread (unread_append.2 ⟨unread_wait _ _ _, unread_speak _ _ _⟩)
  | refused => exact measured_of_unread (unread_wait _ _ _)
  | @done item ran _ hf hr =>
    have hm : ran.trace.Measured (s.called item).context.room empty := by
      refine measured_receipt_done hroom (fun m hd => ?_) hr
      rw [id_called]
      exact empty_of_ready hs hf hd
    exact (measured_of_unread (s.unread_approach item)).append hm

theorem measured_runOnce (s : Mailbox) : 0 < s.context.room → s.Foretold empty →
    s.runOnce.trace.Measured s.context.room empty := by
  refine loop_induction (fun s ran => 0 < s.context.room → s.Foretold empty →
    ran.trace.Measured s.context.room empty) ?_ ?_ s
  · intro s ran h hroom hs
    exact measured_done hroom hs h
  · intro s trace next ran h ih hroom hs
    have hkept := (frame_again h).context.room
    rw [hkept] at ih
    exact (measured_again hroom hs h).append (ih hroom (foretold_again h hs))

theorem measured_service (s : Mailbox) (hroom : 0 < s.context.room) (hs : s.Foretold empty) :
    s.service.trace.Measured s.context.room empty := by
  cases hc : s.token.cancelled with
  | true =>
    rw [s.service_of_cancelled hc]
    exact measured_of_unread (by simp [Trace.Unread])
  | false =>
    rw [s.service_eq hc]
    exact s.measured_runOnce hroom hs

end Messaging.Mailbox

end

namespace Server

/-- The sockets of a run on which an empty payload is delivered. -/
inductive Empties (s : Server) (socket : ServerSocket) : SocketId → Prop
  | message {i : Item Arrival} {a : Arrival} {m : Message} (hi : i ∈ socket.script)
    (ha : i.payload? = some a) (hm : a.message? = some m) (hd : m.data = []) :
    Empties s socket s.socketId
  | chunk {k : Nat} {c : Connection} {i : Item (List UInt8)}
    (hc : socket.connections[k]? = some c) (hi : i ∈ c.script) (hp : i.payload? = some []) :
    Empties s socket (.connection (s.connections.length + k))

section

variable {s : Server} {around : Surroundings} {socket : ServerSocket} {c : Context}

theorem foretold_front (s : Server) (socket : ServerSocket) (c : Context) :
    (s.front socket c).Foretold (s.Empties socket) :=
  fun _ _ hc _ hi hp => .chunk hc hi hp

theorem foretold_inbox (s : Server) (socket : ServerSocket) (c : Context) :
    (s.inbox socket c).Foretold (s.Empties socket) := by
  intro i hi m hm hd
  obtain ⟨j, hj, rfl⟩ := List.mem_map.1 hi
  obtain ⟨a, ha, hm⟩ := Option.bind_eq_some_iff.1 hm
  exact .message hj ha hm hd

theorem measured_mainLoop (socket : ServerSocket) (hc : Context.ofConfig s.config = .ok c) :
    (s.mainLoop socket c).trace.Measured c.room (s.Empties socket) := by
  have hroom := room_prepared_pos hc socket
  rw [← s.room_prepared socket c]
  unfold mainLoop serve
  split
  · exact (s.front socket c).measured_service hroom (s.foretold_front socket c)
  · exact (s.inbox socket c).measured_service hroom (s.foretold_inbox socket c)

theorem measured_run (around : Surroundings) (socket : ServerSocket)
    (hc : Context.ofConfig s.config = .ok c) :
    (s.run around socket).trace.Measured c.room (s.Empties socket) := by
  rcases s.still_or_served around socket with ⟨hstill, -⟩ | ⟨d, hd, hrun⟩
  · exact Trace.measured_of_unread (Trace.unread_of_calm hstill.calm)
  · have hsame : d = c := Except.ok.inj (hd.symm.trans hc)
    subst hsame
    have hpreface := Trace.unread_of_calm (s.still_preface around socket d).calm
    have hdown := Trace.unread_of_calm (still_shutDown (s.mainLoop socket d).state).calm
    have hfarewell := Trace.unread_of_calm
      (aside_farewell (s.mainLoop socket d).result).still.calm
    rw [hrun]
    exact (((Trace.measured_of_unread hpreface).append (measured_mainLoop socket hc)).append
      (Trace.measured_of_unread hdown)).append (Trace.measured_of_unread hfarewell)

end

/-- A run whose buffer has room for so many bytes from start to end: until the server shuts down,
which empties it unless the socket is left open. -/
structure Buffered (s : Server) (around : Surroundings) (socket : ServerSocket) (room : Nat) :
    Prop where
  created : ∃ c, Context.ofConfig s.config = .ok c ∧ c.room = room
  held : ∀ c, s.Holds around socket c → c.room = room
  reads : (s.run around socket).trace.Measured room (s.Empties socket)
  emptied : ∃ c, newest s (s.run around socket).state = some c ∧
    c.room = if strands s.config around socket then room else 0

theorem buffered_run {s : Server} (around : Surroundings) (socket : ServerSocket) {room : Nat}
    (h : Context.bufferLength s.config.bufferSize = .ok room) :
    s.Buffered around socket room := by
  have hc : ∃ c, Context.ofConfig s.config = .ok c := by
    simp [Context.ofConfig, h, bind, Except.bind, pure, Except.pure]
  obtain ⟨c, hc⟩ := hc
  have hroom := (Context.fresh_of_ofConfig hc).room_eq h
  refine ⟨⟨c, hc, hroom⟩, fun d hd => ?_, hroom ▸ measured_run around socket hc, ?_⟩
  · obtain ⟨c', hc', hd'⟩ := room_of_holds hd
    rw [hd', (Context.fresh_of_ofConfig hc').room_eq h]
  · obtain ⟨d, hd, he⟩ := s.room_newest around socket hc
    exact ⟨d, hd, hroom ▸ he⟩

theorem config_of_stage {s : Server} {deeds : List Deed} {g : Stage} (hg : g ∈ s.stages deeds) :
    g.before.config = s.config := by
  induction deeds generalizing s with
  | nil => simp [stages] at hg
  | cons d rest ih =>
    cases d with
    | stop => exact ih (s := s.stop) hg
    | run around socket =>
      rcases List.mem_cons.1 hg with rfl | hg
      · rfl
      · exact (ih hg).trans (s.account around socket).config

/-- In whatever order a server is run and stopped, each run has a buffer of its own with the length
that is configured, until it shuts down: every read asks for that many bytes and gets no more, and
it gets none only if the peer has sent none. -/
theorem buffer_kept (s : Server) (deeds : List Deed) {size : Int}
    (h : s.config.bufferSize.whole? = some size) :
    1 ≤ size ∧ (∀ g ∈ s.stages deeds, g.before.Buffered g.around g.socket size.toNat) ∧
    (∀ (t : Stream.Session) (bytes : List UInt8), (t.taken bytes).context.room = t.context.room ∧
      (0 < t.context.room → (t.chunk bytes = [] ↔ bytes = []))) ∧
    ∀ (t : Messaging.Mailbox) (m : Message), (t.taken m).context.room = t.context.room ∧
      (0 < t.context.room → ((t.piece m).data = [] ↔ m.data = [])) := by
  obtain ⟨hpos, hlength⟩ := Config.length_of_whole h
  refine ⟨hpos, fun g hg => buffered_run _ _ ?_, fun t bytes => ?_, fun t m => ?_⟩
  · rw [config_of_stage hg]
    exact hlength
  · exact ⟨(t.kept_taken bytes).room, Stream.Session.chunk_eq_nil⟩
  · exact ⟨(t.kept_taken m).room, Messaging.Mailbox.piece_eq_nil⟩

theorem buffer_kept_gulping :
    (∀ c, sipping.Holds ⟨true, true, 0, false⟩ gulping c → c.room = 2) ∧
    (sipping.run ⟨true, true, 0, false⟩ gulping).trace.Measured 2 (sipping.Empties gulping) ∧
    (sipping.run ⟨true, true, 0, false⟩ gulping).trace.countP Event.isRead = 4 := by
  obtain ⟨-, hruns, -⟩ := buffer_kept sipping
    [.run ⟨true, true, 0, false⟩ gulping, .stop, .run ⟨true, true, 0, false⟩ .silent]
    (rfl : sipping.config.bufferSize.whole? = some 2)
  have hrun := hruns _ List.mem_cons_self
  exact ⟨hrun.held, hrun.reads, by decide +kernel⟩

end Server

end SctpProbe
