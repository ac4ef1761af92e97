import SctpProbe.Proofs.Frame
import SctpProbe.Proofs.Views.Turns
set_option autoImplicit false

/-!
Sessions that are alike. What a session does goes by its script, its outgoing calls and the settings
of its context; neither the bytes that other sessions have left in the buffer nor the name of its
socket make a difference (`Session.run_matches`). Two loops that go through matching turns come to
matching ends (`loop_matches`).
-/

namespace SctpProbe

open Network

namespace Network

def Event.on (id : SocketId) : Event → Event
  | .waited _ timeout o => .waited id timeout o
  | .acceptFailed _ e => .acceptFailed id e
  | .received _ room count => .received id room count
  | .receiveFailed _ e => .receiveFailed id e
  | .receivedMessage _ room controlRoom count flags =>
    .receivedMessage id room controlRoom count flags
  | .receiveMessageFailed _ e => .receiveMessageFailed id e
  | .sent _ bytes => .sent id bytes
  | .sendFailed _ e => .sendFailed id e
  | .sentMessage _ data control flags receiver failure? =>
    .sentMessage id data control flags receiver failure?
  | .ended _ => .ended id
  | e => e

def Trace.on (id : SocketId) (t : Trace) : Trace := t.map (Event.on id)

namespace Trace

variable {id : SocketId} {t u : Trace}

@[simp] theorem on_nil (id : SocketId) : on id [] = [] := rfl

@[simp] theorem on_cons (id : SocketId) (e : Event) (t : Trace) :
    on id (e :: t) = e.on id :: on id t := rfl

@[simp] theorem on_append (id : SocketId) (t u : Trace) : on id (t ++ u) = on id t ++ on id u :=
  List.map_append

theorem on_of_onlyOn (h : t.OnlyOn id) : on id t = t := by
  refine (List.map_congr_left fun e he => ?_).trans (List.map_id t)
  have h0 := h e he
  cases e <;> simp_all [Event.onlyOn, Event.on]

@[simp] theorem on_speak (id : SocketId) (level : Log.Level) (speaker : Log.Speaker)
    (message : String) : on id (speak level speaker message) = speak level speaker message :=
  on_of_onlyOn (onlyOn_speak _ _ _)

@[simp] theorem on_console (id : SocketId) (text : String) : on id (console text) = console text :=
  on_of_onlyOn (onlyOn_console _)

end Trace

end Network

section

variable {σ α : Type}

/-- The same on another socket, from states that match. -/
structure Ran.Matches (id : SocketId) (R : σ → σ → Prop) (r r' : Ran σ α) : Prop where
  trace : r'.trace = r.trace.on id
  state : R r.state r'.state
  result : r'.result = r.result

inductive Turn.Matches (id : SocketId) (R : σ → σ → Prop) : Turn σ α → Turn σ α → Prop
  | again {t t' : Trace} {s s' : σ} (ht : t' = t.on id) (h : R s s') :
    Matches id R (.again t s) (.again t' s')
  | done {r r' : Ran σ α} (h : r.Matches id R r') : Matches id R (.done r) (.done r')

variable {id : SocketId} {R : σ → σ → Prop}

theorem Ran.Matches.after {r r' : Ran σ α} (h : r.Matches id R r') {t t' : Trace}
    (ht : t' = t.on id) : (r.after t).Matches id R (r'.after t') :=
  ⟨by simp [ht, h.trace], h.state, h.result⟩

theorem Turn.Matches.after {turn turn' : Turn σ α} (h : turn.Matches id R turn') {t t' : Trace}
    (ht : t' = t.on id) : (turn.after t).Matches id R (turn'.after t') := by
  cases h with
  | again hu hs => exact .again (by simp [ht, hu]) hs
  | done h => exact .done (h.after ht)

theorem loop_matches {turn : σ → Turn σ α} {weight : σ → Nat} {shrinks : Shrinks turn weight}
    (h : ∀ s s', R s s' → (turn s).Matches id R (turn s')) {s s' : σ} (hs : R s s') :
    (loop turn weight shrinks s).Matches id R (loop turn weight shrinks s') := by
  refine loop_induction (fun s ran => ∀ s', R s s' →
    ran.Matches id R (loop turn weight shrinks s')) ?_ ?_ s s' hs
  · intro s ran ht s' hs
    have hm := h s s' hs
    rw [ht] at hm
    rw [loop_eq]
    generalize turn s' = turn' at hm ⊢
    cases hm with
    | done h => exact h
  · intro s trace next ran ht ih s' hs
    have hm := h s s' hs
    rw [ht] at hm
    rw [loop_eq]
    generalize turn s' = turn' at hm ⊢
    cases hm with
    | again hu hn => exact (ih _ hn).after hu

end

namespace Network

variable {α : Type} {t t' : Token} {e e' : Endpoint α}

theorem Token.trace_strike (t t' : Token) (i : Item α) (m : Moment) (id : SocketId) :
    (t'.strike i m).1 = Trace.on id (t.strike i m).1 := by
  simp only [strike, stopAt, signalAt]
  repeat' split
  all_goals simp [Event.on]

theorem Token.cancelled_strike_of_eq (h : t'.cancelled = t.cancelled) (i : Item α) (m : Moment) :
    (t'.strike i m).2.cancelled = (t.strike i m).2.cancelled := by
  rw [cancelled_strike_eq, cancelled_strike_eq, h, trace_strike t t' i m (.server 0)]
  simp [Trace.on]

/-- Two endpoints with the same before them. -/
structure Endpoint.Alike (e e' : Endpoint α) : Prop where
  script : e'.script = e.script
  sends : e'.sends = e.sends
  shut : e'.shut = e.shut

theorem Endpoint.alike_advanced (h : e.Alike e') : e.advanced.Alike e'.advanced := by
  unfold advanced
  rw [h.script, h.shut]
  split
  · exact h
  · exact ⟨rfl, h.sends, rfl⟩

theorem Endpoint.beginning_of_alike (h : e.Alike e') (hc : t'.cancelled = t.cancelled) :
    (e'.beginning t').1 = Trace.on e'.id (e.beginning t).1 ∧
      (e'.beginning t').2.cancelled = (e.beginning t).2.cancelled := by
  unfold beginning
  rw [h.script]
  split
  · exact ⟨rfl, rfl⟩
  · exact ⟨Token.trace_strike _ _ _ _ _, Token.cancelled_strike_of_eq hc _ _⟩

theorem wait_of_alike (timeout : Value) (h : e.Alike e') (hc : t'.cancelled = t.cancelled) :
    (wait timeout t' e').trace = Trace.on e'.id (wait timeout t e).trace ∧
      (wait timeout t' e').token.cancelled = (wait timeout t e).token.cancelled ∧
      (wait timeout t' e').found = (wait timeout t e).found := by
  obtain ⟨hbegin, htoken⟩ := e.beginning_of_alike h hc
  have hp : e'.prospect timeout = e.prospect timeout := by
    unfold Endpoint.prospect
    rw [h.script, h.shut]
  rw [wait_eq, wait_eq, hp, h.script, hbegin]
  cases e.prospect timeout with
  | error f => exact ⟨rfl, htoken, rfl⟩
  | ok o => exact ⟨by simp [Waited.ofOutcome, Event.on], htoken, rfl⟩

end Network

namespace Stream

structure Transmission.Matches (id : SocketId) (r r' : Transmission) : Prop where
  trace : r'.trace = r.trace.on id
  cancelled : r'.token.cancelled = r.token.cancelled
  sends : r'.sends = r.sends
  delivery : r'.delivery = r.delivery

theorem Transmission.Matches.after {id : SocketId} {r r' : Transmission} (h : r.Matches id r')
    {t t' : Trace} (ht : t' = t.on id) :
    Matches id { r with trace := t ++ r.trace } { r' with trace := t' ++ r'.trace } :=
  ⟨by simp [ht, h.trace], h.cancelled, h.sends, h.delivery⟩

theorem transmit_matches (id id' : SocketId) (item : Item (List UInt8)) (instant waiting : Bool)
    (sends : List Send) {token token' : Token} (hc : token'.cancelled = token.cancelled)
    (bytes : List UInt8) :
    (transmit id item instant waiting sends token bytes).Matches id'
      (transmit id' item instant waiting sends token' bytes) := by
  have hcall : ∀ {t t' : Token} {e e' : Event}, e' = e.on id' →
      (t'.strike item .send).1 ++ [e'] = Trace.on id' ((t.strike item .send).1 ++ [e]) :=
    fun {t t' _ _} he => by simp [Token.trace_strike t t' item .send id', he]
  induction sends generalizing waiting token token' bytes with
  | nil =>
    unfold transmit
    simp only
    split
    · exact ⟨rfl, hc, rfl, rfl⟩
    · exact ⟨hcall rfl, Token.cancelled_strike_of_eq hc _ _, rfl, rfl⟩
  | cons s rest ih =>
    have hstruck := Token.cancelled_strike_of_eq hc item .send
    unfold transmit
    simp only
    split
    · exact ⟨rfl, hc, rfl, rfl⟩
    · cases s with
      | stall =>
        simp only
        split
        · exact ⟨rfl, hc, rfl, rfl⟩
        · exact ⟨hcall rfl, hstruck, rfl, rfl⟩
      | accept count =>
        simp only
        split
        · exact ⟨hcall rfl, hstruck, rfl, rfl⟩
        · exact (ih true hstruck _).after (hcall rfl)
      | block => exact (ih true hstruck _).after (hcall rfl)
      | fail e =>
        simp only
        split
        · exact (ih true hstruck _).after (hcall rfl)
        · exact ⟨hcall rfl, hstruck, rfl, rfl⟩

structure Echoed.Matches (id : SocketId) (r r' : Echoed) : Prop where
  trace : r'.trace = r.trace.on id
  cancelled : r'.token.cancelled = r.token.cancelled
  sends : r'.sends = r.sends
  result : r'.result = r.result

theorem echo_matches (sendTimeout : Value) (id id' : SocketId) (item : Item (List UInt8))
    (sends : List Send) {token token' : Token} (hc : token'.cancelled = token.cancelled)
    (bytes : List UInt8) :
    (echo sendTimeout id item sends token bytes).Matches id'
      (echo sendTimeout id' item sends token' bytes) := by
  unfold echo failureNote
  simp only
  split
  · exact ⟨by simp, hc, rfl, rfl⟩
  · exact ⟨by simp, hc, rfl, rfl⟩
  · next limit _ _ =>
    have hsent := transmit_matches id id' item (limit = .instant) false sends hc bytes
    rw [hsent.delivery]
    split
    · exact ⟨by simp [hsent.trace], hsent.cancelled, hsent.sends, rfl⟩
    · exact ⟨by simp [hsent.trace], hsent.cancelled, hsent.sends, rfl⟩
    · split
      · exact ⟨by simp [hsent.trace], hsent.cancelled, hsent.sends, rfl⟩
      · exact ⟨by simp [hsent.trace], hsent.cancelled, hsent.sends, rfl⟩

namespace Session

/-- Two sessions, the second one on the socket `id`, that have the same before them. -/
structure Alike (id : SocketId) (s s' : Session) : Prop where
  id : s'.endpoint.id = id
  cancelled : s'.token.cancelled = s.token.cancelled
  endpoint : s.endpoint.Alike s'.endpoint
  config : s'.context.config = s.context.config
  echo : s'.context.echo = s.context.echo
  room : s'.context.room = s.context.room

variable {id : SocketId} {s s' : Session} {item : Item (List UInt8)}

theorem chunk_of_alike (h : Alike id s s') (bytes : List UInt8) :
    s'.chunk bytes = s.chunk bytes := by
  rw [chunk, chunk, h.room]

theorem alike_taken (h : Alike id s s') (bytes : List UInt8) :
    Alike id (s.taken bytes) (s'.taken bytes) := by
  refine ⟨h.id, h.cancelled, ⟨?_, h.endpoint.sends, h.endpoint.shut⟩, h.config, h.echo, ?_⟩
  · simp only [taken, h.room, h.endpoint.script]
  · rw [(s'.kept_taken bytes).room, (s.kept_taken bytes).room, h.room]

theorem report_of_alike (h : Alike id s s') (bytes : List UInt8) :
    s'.report bytes = (s.report bytes).on id := by
  simp [report, chunk_of_alike h, h.room, h.id, Event.on]

theorem answer_matches (h : Alike id s s') (chunk : List UInt8) :
    (s.answer item chunk).Matches id (s'.answer item chunk) := by
  unfold answer
  rw [h.echo, h.config, h.id, h.endpoint.sends]
  split
  · exact echo_matches _ _ _ _ _ h.cancelled _
  · exact ⟨rfl, h.cancelled, rfl, rfl⟩

theorem takeChunk_matches (h : Alike id s s') (bytes : List UInt8) :
    (s.takeChunk item bytes).Matches id (Alike id) (s'.takeChunk item bytes) := by
  have htaken := alike_taken h bytes
  have hanswer : (s.answer item (s.chunk bytes)).Matches id (s'.answer item (s.chunk bytes)) :=
    answer_matches h _
  have hanswered : Alike id (s.answered item bytes) (s'.answered item bytes) := by
    unfold answered
    rw [chunk_of_alike h]
    exact ⟨htaken.id, hanswer.cancelled, ⟨htaken.endpoint.script, hanswer.sends,
      htaken.endpoint.shut⟩, htaken.config, htaken.echo, htaken.room⟩
  rw [takeChunk_eq, takeChunk_eq, chunk_of_alike h]
  split
  · refine .done ⟨?_, htaken, rfl⟩
    simp [h.id, h.room, Event.on]
  · simp only [hanswer.result, hanswer.trace, report_of_alike h]
    cases (s.answer item (s.chunk bytes)).result with
    | ok => exact .again (by simp) hanswered
    | error f => exact .done ⟨by simp, hanswered, rfl⟩

theorem receive_matches (h : Alike id s s') :
    (s.receive item).Matches id (Alike id) (s'.receive item) := by
  unfold receive
  split
  · exact takeChunk_matches h _
  · simp only
    split
    · exact .again (by simp [h.id, Event.on]) h
    · exact .done ⟨by simp [h.id, Event.on], h, rfl⟩

theorem poll_of_alike (h : Alike id s s') :
    s'.poll.trace = s.poll.trace.on id ∧ s'.poll.token.cancelled = s.poll.token.cancelled ∧
      s'.poll.found = s.poll.found := by
  have hw := wait_of_alike s.context.config.pollTimeout.toValue h.endpoint h.cancelled
  rw [h.id] at hw
  unfold poll
  rw [h.config]
  exact hw

theorem alike_polled (h : Alike id s s') : Alike id s.polled s'.polled := by
  have hadvanced : ∀ s : Session, s.polled.endpoint = s.endpoint.advanced := by
    simp [polled, poll]
  refine ⟨by rw [id_polled, h.id], (poll_of_alike h).2.1, ?_, h.config, h.echo, h.room⟩
  rw [hadvanced, hadvanced]
  exact Endpoint.alike_advanced h.endpoint

theorem alike_called (h : Alike id s s') (item : Item (List UInt8)) :
    Alike id (s.called item) (s'.called item) :=
  { alike_polled h with
    cancelled := Token.cancelled_strike_of_eq (poll_of_alike h).2.1 item .call }

theorem turn_matches (h : Alike id s s') : s.turn.Matches id (Alike id) s'.turn := by
  obtain ⟨htrace, -, hfound⟩ := poll_of_alike h
  unfold turn
  simp only [h.cancelled, hfound, htrace]
  split
  · exact .done ⟨rfl, h, rfl⟩
  · split
    · exact .done ⟨by simp, alike_polled h, rfl⟩
    · exact .done ⟨rfl, alike_polled h, rfl⟩
    · exact .again rfl (alike_polled h)
    · next item _ =>
      refine (receive_matches (alike_called h item)).after ?_
      simp [Token.trace_strike s.poll.token s'.poll.token item .call id]

/-- Sessions that are alike take the same course. -/
theorem run_matches (h : Alike id s s') : s.run.Matches id (Alike id) s'.run :=
  loop_matches (fun _ _ => turn_matches) h

end Session

end Stream

end SctpProbe
