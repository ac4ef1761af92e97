import SctpProbe.Proofs.Accepting
import SctpProbe.Proofs.Views.View
set_option autoImplicit false

namespace SctpProbe

open Network

namespace View

def session (v : View) (s : Stream.Session) : Stream.Session :=
  ⟨s.token, v.endpoint id s.endpoint, v.context s.context⟩

def arriving (v : View) (c : Connection) : Connection :=
  { c with
    script := v.script id c.script
    sends := v.sends c.sends }

def listener (v : View) (s : Stream.Listener) : Stream.Listener :=
  ⟨s.token, v.endpoint v.arriving s.endpoint, s.connections.map (v.endpoint id),
    v.context s.context⟩

def accepted (v : View) : Stream.Listener.Accepted → Stream.Listener.Accepted :=
  Option.map fun a => (v.endpoint id a.1, a.2)

def mailbox (v : View) (s : Messaging.Mailbox) : Messaging.Mailbox :=
  ⟨s.token, v.endpoint id s.endpoint, v.context s.context⟩

end View

namespace Stream

def Echoed.seen (keeps : Event → Bool) (f : List Send → List Send) (e : Echoed) : Echoed :=
  ⟨e.trace.filter keeps, e.token, f e.sends, e.result⟩

namespace Session

variable {v : View} {s : Session} {item : Item (List UInt8)}

def answer (s : Session) (item : Item (List UInt8)) (chunk : List UInt8) : Echoed :=
  if s.context.echo.truthy then
    echo s.context.config.sendTimeout s.endpoint.id item s.endpoint.sends s.token chunk
  else ⟨[], s.token, s.endpoint.sends, .ok ()⟩

def answered (s : Session) (item : Item (List UInt8)) (bytes : List UInt8) : Session :=
  { s.taken bytes with
    token := (s.answer item (s.chunk bytes)).token
    endpoint.sends := (s.answer item (s.chunk bytes)).sends }

theorem takeChunk_eq (s : Session) (item : Item (List UInt8)) (bytes : List UInt8) :
    s.takeChunk item bytes =
      if s.chunk bytes = [] then
        .done ⟨[.received s.endpoint.id s.context.room 0] ++
          console "Connection closed by the remote host", s.taken bytes, .ok true⟩
      else
        let e := s.answer item (s.chunk bytes)
        match e.result with
        | .ok _ => .again (s.report bytes ++ e.trace) (s.answered item bytes)
        | .error f => .done ⟨s.report bytes ++ e.trace, s.answered item bytes, .error f⟩ := by
  unfold takeChunk answered answer
  simp only [Context.received_store, List.length_eq_zero_iff]
  change (if s.chunk bytes = [] then _ else _) = _
  split
  · next hc =>
    have h0 : bytes.take s.context.room = [] := hc
    simp only [h0, List.length_nil]
    simp only [taken, hc]
  · change (if s.context.echo.truthy then _ else _) = _
    split
    · rfl
    · simp only [List.append_nil]
      rfl

/-- A chunk looks the same if what comes of it once it has been dumped does. -/
theorem takeChunk_seen {bytes : List UInt8}
    (h : s.chunk bytes ≠ [] → ((v.session s).answer item (s.chunk bytes)).seen v.keeps id =
      (s.answer item (s.chunk bytes)).seen v.keeps v.sends) :
    ((v.session s).takeChunk item bytes).seen v.keeps id id =
      (s.takeChunk item bytes).seen v.keeps v.session id := by
  have hscript : v.script id (deferred s.context.room bytes ++ s.endpoint.script) =
      deferred s.context.room bytes ++ v.script id s.endpoint.script := by
    rw [v.script_append]
    congr 1
    unfold deferred
    split
    · rfl
    · rw [v.script_cons id (v.skips_delivering _), v.script_nil, Item.map_id]
  have htaken : (v.session s).taken bytes = v.session (s.taken bytes) := by
    simp only [taken, View.session, View.endpoint, hscript]
    rfl
  have hreport : (v.session s).report bytes = s.report bytes := rfl
  have hchunk : (v.session s).chunk bytes = s.chunk bytes := rfl
  rw [takeChunk_eq, takeChunk_eq, hchunk]
  split
  · rw [htaken]
    rfl
  · next hc =>
    have ha := h hc
    simp only [answered, htaken, hreport, hchunk]
    generalize (v.session s).answer item (s.chunk bytes) = e' at ha ⊢
    generalize s.answer item (s.chunk bytes) = e at ha ⊢
    obtain ⟨trace', token', sends', result'⟩ := e'
    obtain ⟨trace, token, sends, result⟩ := e
    simp only [Echoed.seen, Echoed.mk.injEq, id_eq] at ha
    obtain ⟨htrace, rfl, rfl, rfl⟩ := ha
    cases result' with
    | ok u => simp [Turn.seen, htrace, View.session, View.endpoint]
    | error f => simp [Turn.seen, Ran.seen, htrace, View.session, View.endpoint]

def AnswersAlike (v : View) (s : Session) (item : Item (List UInt8)) : Prop :=
  ∀ chunk, chunk ≠ [] → ((v.session s).answer item chunk).seen v.keeps id =
    (s.answer item chunk).seen v.keeps v.sends

theorem receive_seen (h : AnswersAlike v s item) :
    ((v.session s).receive item).seen v.keeps id id =
      (s.receive item).seen v.keeps v.session id := by
  unfold receive
  cases item.delivery with
  | ok bytes => exact takeChunk_seen (h (s.chunk bytes))
  | error e =>
    simp only
    split <;> rfl

theorem turn_seen (hm : s.token.cancelled = false → v.Meets s.endpoint)
    (h : ∀ item, s.poll.found = .ready item → AnswersAlike v (s.called item) item) :
    (v.session s).turn.seen v.keeps id id = s.turn.seen v.keeps v.session id := by
  unfold turn
  change Turn.seen _ _ _ (if s.token.cancelled then _ else _) = _
  split
  · rfl
  · next hc =>
    have hp : (v.session s).poll = ⟨s.poll.trace, s.poll.token, v.endpoint id s.poll.endpoint,
        s.poll.found.map id⟩ := v.wait_endpoint id _ _ (hm (Bool.eq_false_iff.2 hc))
    simp only [hp, Found.map_id]
    cases hf : s.poll.found with
    | broken e => rfl
    | refused f => rfl
    | idle => rfl
    | ready item =>
      have hr := receive_seen (h item hf)
      simp only [Turn.seen_after]
      exact congrArg (Turn.after · _) hr

end Session

namespace Listener

variable {v : View} {s : Listener}

theorem adopt_eq (s : Listener) (c : Connection) :
    s.adopt c = ⟨s.arrival c, s.adopted c, s.handover c⟩ := by
  obtain ⟨sender, script, sends, unblocking?⟩ := c
  cases unblocking? with
  | some e => rfl
  | none =>
    unfold adopt handover
    cases Peer.ofSocketAddress sender <;> simp [Except.map, arrival, adopted, fresh, nextId]

theorem acceptItem_seen (v : View) (s : Listener) (item : Item Connection) :
    ((v.listener s).acceptItem (item.map v.arriving)).seen v.keeps id id =
      (s.acceptItem item).seen v.keeps v.listener v.accepted := by
  unfold acceptItem
  rw [Item.delivery_map]
  cases item.delivery with
  | error e =>
    simp only [Except.map]
    split <;> rfl
  | ok c =>
    have hadopted : (v.listener s).adopted (v.arriving c) = v.listener (s.adopted c) := by
      simp only [adopted, View.listener, List.map_append, List.map_cons, List.map_nil, fresh,
        nextId, List.length_map]
      rfl
    have hid : (v.listener s).nextId = s.nextId := by simp [nextId, View.listener]
    have harrival : (v.listener s).arrival (v.arriving c) = s.arrival c := by
      simp only [arrival, hid]
      rfl
    have hhandover : (v.listener s).handover (v.arriving c) =
        (s.handover c).map v.accepted := by
      have hunblocking : (v.arriving c).unblocking? = c.unblocking? := rfl
      have hsender : (v.arriving c).sender = c.sender := rfl
      simp only [handover, fresh, hid, hunblocking, hsender]
      cases c.unblocking? with
      | some e => rfl
      | none => cases Peer.ofSocketAddress c.sender <;> rfl
    change Turn.seen _ _ _ (.done ((v.listener s).adopt (v.arriving c))) =
      Turn.seen _ _ _ (.done (s.adopt c))
    simp only [adopt_eq, hadopted, harrival, hhandover, Turn.seen, Ran.seen, Except.map_id, id_eq]

theorem acceptTurn_seen (hm : s.token.cancelled = false → v.Meets s.endpoint) :
    (v.listener s).acceptTurn.seen v.keeps id id =
      s.acceptTurn.seen v.keeps v.listener v.accepted := by
  unfold acceptTurn
  change Turn.seen _ _ _ (if s.token.cancelled then _ else _) = _
  split
  · rfl
  · next hc =>
    have hp : (v.listener s).poll = ⟨s.poll.trace, s.poll.token,
        v.endpoint v.arriving s.poll.endpoint, s.poll.found.map v.arriving⟩ :=
      v.wait_endpoint v.arriving _ _ (hm (Bool.eq_false_iff.2 hc))
    simp only [hp]
    cases hf : s.poll.found with
    | broken e => rfl
    | refused f => rfl
    | idle => rfl
    | ready item =>
      have hr := acceptItem_seen v (s.called item) item
      simp only [Found.map, Turn.seen_after]
      exact congrArg (Turn.after · _) hr

end Listener

end Stream

namespace Messaging.Mailbox

variable {v : View} {s : Mailbox} {item : Item Message}

def answer (s : Mailbox) (item : Item Message) (p : Piece) : Ran Mailbox Unit :=
  if s.context.echo.truthy then s.echo item p (informed p.control).2 else ⟨[], s, .ok ()⟩

def AnswersAlike (v : View) (s : Mailbox) (item : Item Message) : Prop :=
  ∀ p, ((v.mailbox s).answer item p).seen v.keeps id id =
    (s.answer item p).seen v.keeps v.mailbox id

theorem handle_eq (s : Mailbox) (item : Item Message) (p : Piece) :
    s.handle item p =
      let noted := Trace.speak .debug .message ("Received " ++ toString p.data.length ++ " bytes")
      match Peer.display p.sender with
      | .error f => ⟨noted, s, .error f⟩
      | .ok shown => (s.answer item p).after (noted ++ report s.context p shown) := by
  unfold handle answer
  cases Peer.display p.sender with
  | error f => rfl
  | ok shown =>
    simp only
    split
    · rfl
    · simp [Ran.after]

theorem report_seen (v : View) (c : Context) (p : Piece) (shown : String) :
    report (v.context c) p shown = report c p shown := by
  have hv : (v.context c).verbose.truthy = c.verbose.truthy := v.truthy_verbose _
  simp only [report, hv]
  rfl

theorem handle_seen {p : Piece} (h : AnswersAlike v s item) :
    ((v.mailbox s).handle item p).seen v.keeps id id =
      (s.handle item p).seen v.keeps v.mailbox id := by
  rw [handle_eq, handle_eq]
  cases Peer.display p.sender with
  | error f => rfl
  | ok shown =>
    simp only [Ran.seen_after, View.mailbox, report_seen]
    exact congrArg (Ran.after · _) (h p)

theorem takePiece_eq (s : Mailbox) (item : Item Message) (m : Message) :
    s.takePiece item m =
      if s.context.room = 0 ∧ m.data ≠ [] then .done ⟨s.arrival m, s.taken m, .error .endless⟩
      else if marked notification (s.piece m).flags then
        .again (s.arrival m ++ Trace.speak .debug .message ("Skipping SCTP notification of " ++
          toString (s.piece m).data.length ++ " bytes")) (s.taken m)
      else if (s.piece m).data.length = 0 then
        .again (s.arrival m ++ console "Connection closed by remote host") (s.taken m)
      else
        let r := (s.taken m).handle item (s.piece m)
        match r.result with
        | .ok _ => .again (s.arrival m ++ r.trace) r.state
        | .error f => .done ⟨s.arrival m ++ r.trace, r.state, .error f⟩ := by
  unfold takePiece
  simp only [Context.received_store]
  rfl

theorem takePiece_seen {m : Message} (h : AnswersAlike v (s.taken m) item) :
    ((v.mailbox s).takePiece item m).seen v.keeps id id =
      (s.takePiece item m).seen v.keeps v.mailbox id := by
  have hscript : v.script id (restOf s.context.room m ++ s.endpoint.script) =
      restOf s.context.room m ++ v.script id s.endpoint.script := by
    rw [v.script_append]
    congr 1
    unfold restOf
    split
    · rfl
    · rw [v.script_cons id (v.skips_delivering _), v.script_nil, Item.map_id]
  have htaken : (v.mailbox s).taken m = v.mailbox (s.taken m) := by
    simp only [taken, View.mailbox, View.endpoint, hscript]
    rfl
  have hh := handle_seen (p := s.piece m) h
  rw [← htaken] at hh
  have harrival : (v.mailbox s).arrival m = s.arrival m := rfl
  have hpiece : (v.mailbox s).piece m = s.piece m := rfl
  rw [takePiece_eq, takePiece_eq, harrival, hpiece]
  change Turn.seen _ _ _ (if s.context.room = 0 ∧ m.data ≠ [] then _ else _) = _
  simp only [htaken] at hh ⊢
  split
  · rfl
  · split
    · rfl
    · split
      · rfl
      · generalize (v.mailbox (s.taken m)).handle item (s.piece m) = r' at hh ⊢
        generalize (s.taken m).handle item (s.piece m) = r at hh ⊢
        obtain ⟨trace', state', result'⟩ := r'
        obtain ⟨trace, state, result⟩ := r
        simp only [Ran.seen, Ran.mk.injEq, id_eq, Except.map_id] at hh
        obtain ⟨htrace, rfl, rfl⟩ := hh
        cases result' with
        | ok u => simp [Turn.seen, htrace]
        | error f => simp [Turn.seen, Ran.seen, htrace]

theorem receive_seen
    (h : ∀ m, item.delivery = .ok m → AnswersAlike v (s.taken m) item) :
    ((v.mailbox s).receive item).seen v.keeps id id =
      (s.receive item).seen v.keeps v.mailbox id := by
  unfold receive
  cases hd : item.delivery with
  | ok m => exact takePiece_seen (h m hd)
  | error e =>
    simp only
    split <;> rfl

theorem turn_seen (hm : s.token.cancelled = false → v.Meets s.endpoint)
    (h : ∀ item, s.poll.found = .ready item → ∀ m, item.delivery = .ok m →
      AnswersAlike v ((s.called item).taken m) item) :
    (v.mailbox s).turn.seen v.keeps id id = s.turn.seen v.keeps v.mailbox id := by
  unfold turn
  change Turn.seen _ _ _ (if s.token.cancelled then _ else _) = _
  split
  · rfl
  · next hc =>
    have hp : (v.mailbox s).poll = ⟨s.poll.trace, s.poll.token, v.endpoint id s.poll.endpoint,
        s.poll.found.map id⟩ := v.wait_endpoint id _ _ (hm (Bool.eq_false_iff.2 hc))
    simp only [hp, Found.map_id]
    cases hf : s.poll.found with
    | broken e => rfl
    | refused f => rfl
    | idle => rfl
    | ready item =>
      have hr := receive_seen (h item hf)
      simp only [Turn.seen_after]
      exact congrArg (Turn.after · _) hr

end Messaging.Mailbox

end SctpProbe
