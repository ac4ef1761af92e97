import SctpProbe.Proofs.Failing
import SctpProbe.Proofs.Release
import SctpProbe.Proofs.Sending
import SctpProbe.Proofs.Views.Run
set_option autoImplicit false

namespace SctpProbe

open Network

def echoNotes : List (Log.Level × Log.Speaker × String) :=
  [(.debug, .stream, "Echoing data back"),
    (.warning, .stream, "send() failed while echoing received data: "),
    (.debug, .message, "Echoing data back"),
    (.warning, .message, "Error while echoing data: "),
    (.warning, .message, "Unable to subscribe to SCTP IO events: ")]

def Log.Entry.ofEcho (e : Log.Entry) : Bool :=
  echoNotes.any fun n =>
    e.level == n.1 && e.speaker == n.2.1 && n.2.2.toList.isPrefixOf e.message.toList

def Network.Event.ofEcho : Event → Bool
  | .sent _ _ => true
  | .sendFailed _ _ => true
  | .sentMessage _ _ _ _ _ _ => true
  | .optionSet _ level option _ _ => level == sctp && option == DeliveryInfo.eventsOption
  | .log e => e.ofEcho
  | _ => false

/-- The view of somebody who is not told about the echo. -/
def muted : View where
  keeps e := !e.ofEcho
  skips _ := false
  sends _ := []
  echo _ := .bool false
  verbose x := .bool x.truthy
  sendTimeout _ := .nothing
  skips_delivering _ := rfl
  truthy_verbose _ := rfl

theorem muted_note {note : Log.Level × Log.Speaker × String} (h : note ∈ echoNotes)
    (rest : String) : (Trace.speak note.1 note.2.1 (note.2.2 ++ rest)).filter muted.keeps = [] := by
  have he : (Log.Entry.plain note.1 note.2.1 (note.2.2 ++ rest)).ofEcho = true := by
    refine List.any_eq_true.2 ⟨_, h, ?_⟩
    simp [Log.Entry.plain]
  simp [Trace.speak, muted, Event.ofEcho, he]

theorem muted_calls {id : SocketId} {t : Trace} (h : ∀ e ∈ t, e.isCall id = true) :
    t.filter muted.keeps = [] := by
  refine List.filter_eq_nil_iff.2 fun e he => ?_
  have hc := h e he
  cases e <;> simp [Event.isCall] at hc <;> simp [muted, Event.ofEcho]

theorem meets_muted {α : Type} (e : Endpoint α) : muted.Meets e := fun _ _ => rfl

/-- If anything is sent back then within a time that a clock can hold, or without a limit and to
peers that do not stall. -/
def Timely (echo sendTimeout : Value) (sends : List Send) : Prop :=
  echo.truthy = true → ∃ limit, Limit.ofValue sendTimeout = .ok limit ∧
    (limit = .never → .stall ∉ sends)

theorem Timely.of_subset {echo sendTimeout : Value} {sends later : List Send}
    (h : Timely echo sendTimeout sends) (hl : later ⊆ sends) : Timely echo sendTimeout later := by
  intro he
  obtain ⟨limit, hlimit, hn⟩ := h he
  exact ⟨limit, hlimit, fun hv hs => hn hv (hl hs)⟩

namespace Stream

theorem muted_start :
    (Trace.speak .debug .stream "Echoing data back").filter muted.keeps = [] := by
  decide

theorem muted_noted (note? : Option String) : (noted note?).filter muted.keeps = [] := by
  cases note? with
  | none => rfl
  | some reason =>
    have h : (.warning, .stream, "send() failed while echoing received data: ") ∈ echoNotes := by
      simp [echoNotes]
    exact muted_note h reason

namespace Session

/-- Nothing happens as chunks are sent back. -/
structure Untroubled (s : Session) : Prop where
  spared : ∀ i ∈ s.endpoint.script, i.spares = true
  timely : Timely s.context.echo s.context.config.sendTimeout s.endpoint.sends

/-- Sending a chunk back takes away calls that send, and nothing else happens. -/
theorem answer_unnoticed {s : Session} {item : Item (List UInt8)} {chunk : List UInt8}
    (hi : item.spares = true)
    (ht : Timely s.context.echo s.context.config.sendTimeout s.endpoint.sends) (hc : chunk ≠ []) :
    (s.answer item chunk).trace.filter muted.keeps = [] ∧
      (s.answer item chunk).token = s.token ∧
      (s.answer item chunk).sends <:+ s.endpoint.sends ∧
      (s.answer item chunk).result = .ok () := by
  unfold answer
  split
  · next he =>
    obtain ⟨limit, hl, hn⟩ := ht he
    obtain ⟨sending, note?, hs⟩ := echoes hl hn hi hc s.endpoint.id s.token
    refine ⟨?_, hs.token, hs.rest, hs.result⟩
    rw [hs.trace, List.filter_append, List.filter_append, muted_start, muted_calls hs.calls,
      muted_noted]
    rfl
  · exact ⟨rfl, rfl, List.suffix_refl _, rfl⟩

theorem answersAlike {s : Session} {item : Item (List UInt8)} (hi : item.spares = true)
    (ht : Timely s.context.echo s.context.config.sendTimeout s.endpoint.sends) :
    AnswersAlike muted s item := by
  intro chunk hc
  obtain ⟨htrace, htoken, -, hresult⟩ := answer_unnoticed hi ht hc
  have hl : (muted.session s).answer item chunk = ⟨[], s.token, [], .ok ()⟩ := rfl
  rw [hl]
  simp only [Echoed.seen, htrace, htoken, hresult]
  rfl

theorem polled_sends (s : Session) : s.polled.endpoint.sends = s.endpoint.sends := by
  simp only [polled, poll, endpoint_wait, Endpoint.advanced]
  split <;> rfl

theorem spares_of_found {s : Session} (h : Untroubled s) {item : Item (List UInt8)}
    (hf : s.poll.found = .ready item) : item.spares = true := by
  refine h.spared item ?_
  rw [(wait_of_ready hf).2.1]
  exact List.mem_cons_self

theorem Untroubled.polled {s : Session} (h : Untroubled s) : Untroubled s.polled :=
  ⟨fun _ hi => h.spared _ (List.mem_of_mem_tail (s.script_polled ▸ hi)),
    h.timely.of_subset (s.polled_sends ▸ fun _ h => h)⟩

theorem Untroubled.called {s : Session} (h : Untroubled s) (item : Item (List UInt8)) :
    Untroubled (s.called item) := ⟨h.polled.spared, h.polled.timely⟩

theorem Untroubled.taken {s : Session} (h : Untroubled s) (bytes : List UInt8) :
    Untroubled (s.taken bytes) := by
  refine ⟨fun i hi => ?_, h.timely⟩
  rcases List.mem_append.1 hi with hd | hi
  · obtain ⟨rest, -, -, rfl⟩ := mem_deferred hd
    rfl
  · exact h.spared i hi

theorem Untroubled.again {s next : Session} {trace : Trace} (h : Untroubled s)
    (ht : s.turn = .again trace next) : Untroubled next := by
  cases step_again ht with
  | idle _ hf => exact h.polled
  | @again item _ _ _ hf hr =>
    have hc := h.called item
    cases hr with
    | retried => exact hc
    | dumped => exact hc.taken _
    | @echoed bytes hd hne he hr =>
      have hreply : (s.called item).reply item bytes =
          (s.called item).answer item ((s.called item).chunk bytes) := (if_pos he).symm
      obtain ⟨-, -, hrest, -⟩ := answer_unnoticed (spares_of_found h hf) hc.timely hne
      rw [← hreply] at hrest
      exact ⟨(hc.taken bytes).spared, hc.timely.of_subset hrest.subset⟩

theorem muted_run {s : Session} (h : Untroubled s) :
    (muted.session s).run.seen muted.keeps id id = s.run.seen muted.keeps muted.session id := by
  refine loop_seen Untroubled (fun _ _ _ => Untroubled.again) (fun s h => .inl ?_) s h
  exact turn_seen (fun _ => meets_muted _) fun item hf =>
    answersAlike (spares_of_found h hf) (h.called item).timely

end Session

namespace Listener

def Untroubled (s : Listener) : Prop :=
  ∀ i ∈ s.endpoint.script, ∀ c, i.payload? = some c →
    (∀ j ∈ c.script, j.spares = true) ∧ Timely s.context.echo s.context.config.sendTimeout c.sends

theorem Untroubled.lasting {s next : Listener} (h : Untroubled s) (hl : Lasting s next) :
    Untroubled next := by
  intro i hi c hc
  rw [hl.context.echo, hl.context.config]
  exact h i (hl.script.subset hi) c hc

theorem muted_accept (s : Listener) :
    (muted.listener s).accept.seen muted.keeps id id =
      s.accept.seen muted.keeps muted.listener muted.accepted :=
  loop_seen (fun _ => True) (fun _ _ _ _ _ => trivial)
    (fun _ _ => .inl (acceptTurn_seen fun _ => meets_muted _)) s trivial

theorem muted_runOnce {s : Listener} (h : Untroubled s) :
    (muted.listener s).runOnce.seen muted.keeps id id =
      s.runOnce.seen muted.keeps muted.listener id := by
  refine runOnce_seen s.muted_accept fun conn peer hr => Session.muted_run ?_
  have hl := s.lasting_accept
  have ha := s.accepting
  generalize s.accept = ran at ha hr hl ⊢
  cases ha with
  | without q hw => exact absurd hr (hw _)
  | connected q hi hd =>
    obtain ⟨-, rfl, -⟩ := of_handover_ok hr
    obtain ⟨hspared, htimely⟩ := h _ hi _ (Item.payload_of_delivery hd)
    refine ⟨hspared, ?_⟩
    rw [hl.context.echo, hl.context.config]
    exact htimely

theorem muted_service {s : Listener} (h : Untroubled s) :
    (muted.listener s).service.seen muted.keeps id id =
      s.service.seen muted.keeps muted.listener id :=
  loop_round_seen (f := muted.listener) (fun _ => rfl) Untroubled
    (fun s h _ => h.lasting (lasting_round s.rounding)) (fun _ => muted_runOnce) h

end Listener

end Stream

namespace Messaging.Mailbox

def Untroubled (s : Mailbox) : Prop := ∀ i ∈ s.endpoint.script, i.spares = true

theorem muted_start :
    (Trace.speak .debug .message "Echoing data back").filter muted.keeps = [] := by
  decide

theorem muted_failureNote (reason : String) : (failureNote reason).filter muted.keeps = [] := by
  have h : (.warning, .message, "Error while echoing data: ") ∈ echoNotes := by
    simp [echoNotes]
  exact muted_note h reason

theorem muted_noted (failure? : Option SystemError) :
    (noted failure?).filter muted.keeps = [] := by
  cases failure? with
  | none => rfl
  | some e => exact muted_failureNote e.message

theorem answersAlike {s : Mailbox} {item : Item Message} (hi : item.spares = true) :
    AnswersAlike muted s item := by
  intro p
  have hl : (muted.mailbox s).answer item p = ⟨[], muted.mailbox s, .ok ()⟩ := rfl
  rw [hl]
  unfold answer
  split
  · cases hk : p.sender.truthy with
    | false => simp [echo, hk, Ran.seen, muted_failureNote]
    | true =>
      have hcall : muted.keeps (.sentMessage s.endpoint.id p.data p.replyControl 0 p.sender
          (replyFailure s.endpoint.sends)) = false := rfl
      rw [echo_eq s item hk p.reply_carried]
      simp only [Ran.seen, Token.strike_spares hi, List.filter_append, muted_start, muted_noted,
        List.filter_cons, hcall]
      rfl
  · rfl

theorem Untroubled.again {s next : Mailbox} {trace : Trace} (h : Untroubled s)
    (ht : s.turn = .again trace next) : Untroubled next :=
  items_again (fun _ _ _ _ _ _ => rfl) ht h

theorem muted_runOnce {s : Mailbox} (h : Untroubled s) :
    (muted.mailbox s).runOnce.seen muted.keeps id id =
      s.runOnce.seen muted.keeps muted.mailbox id := by
  refine loop_seen Untroubled (fun _ _ _ => Untroubled.again) (fun s h => .inl ?_) s h
  refine turn_seen (fun _ => meets_muted _) fun item hf m _ => answersAlike (h item ?_)
  rw [(wait_of_ready hf).2.1]
  exact List.mem_cons_self

end Messaging.Mailbox

namespace Server

theorem muted_subscription (own : SocketId) (failure? : Option SystemError) (c : Context) :
    (Messaging.subscribe own failure? c).1.filter muted.keeps = [] := by
  have hasked : (Messaging.subscription own failure?).filter muted.keeps = [] := rfl
  unfold Messaging.subscribe
  split
  · simp only
    split
    · exact hasked
    · next e =>
      have h : (.warning, .message, "Unable to subscribe to SCTP IO events: ") ∈ echoNotes := by
        simp [echoNotes]
      rw [List.filter_append, hasked]
      exact muted_note h e.message
  · rfl

/-- The failure of a subscription that only the echo asks for changes nothing. -/
theorem muted_subscribed (own : SocketId) (failure? : Option SystemError) (c : Context) :
    (Messaging.subscribe own failure? (muted.context c)).2 =
      muted.context (Messaging.subscribe own failure? c).2 := by
  have hv : (muted.context c).verbose.truthy = c.verbose.truthy := rfl
  have he : (muted.context c).echo.truthy = false := rfl
  have hf : (Value.bool false).truthy = false := rfl
  unfold Messaging.subscribe
  rw [hv, he]
  cases hverbose : c.verbose.truthy <;> cases hecho : c.echo.truthy <;> cases failure? <;>
    simp [View.context, muted, hf, hverbose]

def Untroubled (config : Config) (socket : ServerSocket) : Prop :=
  match config.mode with
  | .stream => ∀ i ∈ socket.script, ∀ a, i.payload? = some a → ∀ c, a.connection? = some c →
      (∀ j ∈ c.script, j.spares = true) ∧ Timely config.echo config.sendTimeout c.sends
  | .message => ∀ i ∈ socket.script, i.spares = true

theorem muted_run {s : Server} {socket : ServerSocket} (h : Untroubled s.config socket)
    (around : Surroundings) :
    ((muted.server s).run around (muted.socket s.config.mode socket)).seen muted.keeps id id =
      (s.run around socket).seen muted.keeps muted.server id := by
  refine run_seen around (fun c => ?_) fun c hc => ?_
  · have hmode : (muted.server s).begun.config.mode = s.config.mode := rfl
    have hmode' : s.begun.config.mode = s.config.mode := rfl
    unfold prepared prepare
    rw [hmode, hmode']
    cases s.config.mode with
    | stream => exact ⟨rfl, rfl⟩
    | message =>
      simp only [muted_subscription]
      exact ⟨trivial, muted_subscribed s.socketId socket.obstacles.events?
        { c with socket? := some s.socketId }⟩
  · have hmode : (s.up socket c).config.mode = s.config.mode := rfl
    unfold ServesAlike
    unfold Untroubled at h
    rw [hmode]
    cases hm : s.config.mode with
    | stream =>
      rw [hm] at h
      refine Stream.Listener.muted_service fun i hi d hd => ?_
      obtain ⟨j, hj, rfl⟩ := List.mem_map.1 hi
      obtain ⟨a, ha, had⟩ := Option.bind_eq_some_iff.1 hd
      change _ ∧ Timely (s.prepared socket c).2.echo (s.prepared socket c).2.config.sendTimeout _
      rw [echo_prepared hc, config_prepared hc]
      exact h j hj a ha d had
    | message =>
      rw [hm] at h
      refine Messaging.Mailbox.service_seen (Messaging.Mailbox.muted_runOnce fun i hi => ?_)
      obtain ⟨j, hj, rfl⟩ := List.mem_map.1 hi
      exact h j hj

end Server

/-- Two runs come to the same and look the same, the echo apart, if they differ only in what becomes
of the calls that send, in the send timeout, or in that one has an echo. -/
theorem echo_unnoticed :
    (∀ s s' : Stream.Session, s.Untroubled → s'.Untroubled → muted.session s = muted.session s' →
      s.run.seen muted.keeps muted.session id = s'.run.seen muted.keeps muted.session id) ∧
    (∀ s s' : Stream.Listener, s.Untroubled → s'.Untroubled →
      muted.listener s = muted.listener s' →
      s.runOnce.seen muted.keeps muted.listener id =
        s'.runOnce.seen muted.keeps muted.listener id) ∧
    (∀ s s' : Messaging.Mailbox, s.Untroubled → s'.Untroubled →
      muted.mailbox s = muted.mailbox s' →
      s.runOnce.seen muted.keeps muted.mailbox id =
        s'.runOnce.seen muted.keeps muted.mailbox id) ∧
    ∀ (s s' : Server) (around : Surroundings) (socket socket' : ServerSocket),
      Server.Untroubled s.config socket → Server.Untroubled s'.config socket' →
      muted.server s = muted.server s' →
      muted.socket s.config.mode socket = muted.socket s'.config.mode socket' →
      (s.run around socket).seen muted.keeps muted.server id =
        (s'.run around socket').seen muted.keeps muted.server id := by
  refine ⟨fun s s' h h' hs => ?_, fun s s' h h' hs => ?_, fun s s' h h' hs => ?_,
    fun s s' around socket socket' h h' hs hk => ?_⟩
  · rw [← Stream.Session.muted_run h, ← Stream.Session.muted_run h', hs]
  · rw [← Stream.Listener.muted_runOnce h, ← Stream.Listener.muted_runOnce h', hs]
  · rw [← Messaging.Mailbox.muted_runOnce h, ← Messaging.Mailbox.muted_runOnce h', hs]
  · rw [← Server.muted_run h, ← Server.muted_run h', hs, hk]

namespace Server

def repeating (echo sendTimeout : Value) : Server :=
  new { Config.usual with
    echo := echo
    sendTimeout := sendTimeout }

def calling (sends : List Send) : ServerSocket :=
  { ServerSocket.silent with script := [.delivering ⟨some ⟨.tuple [.text "192.0.2.10",
    .int 36412], [.delivering [104, 105], .delivering []], sends, none⟩, none⟩] }

theorem echo_unnoticed_calling :
    ((repeating (.bool true) (.float Settings.one)).run ⟨true, true, 0, false⟩
        (calling [.block, .fail .bare])).result =
      ((repeating (.bool false) .nothing).run ⟨true, true, 0, false⟩ (calling [])).result := by
  obtain ⟨-, -, -, h⟩ := echo_unnoticed
  have hspared : ∀ sends, ∀ i ∈ (calling sends).script, ∀ a, i.payload? = some a →
      ∀ c, a.connection? = some c → (∀ j ∈ c.script, j.spares = true) ∧ c.sends = sends := by
    simp [calling, Item.delivering, Item.spares]
  have hrun := h (repeating (.bool true) (.float Settings.one)) (repeating (.bool false) .nothing)
    ⟨true, true, 0, false⟩ (calling [.block, .fail .bare]) (calling [])
    (fun i hi a ha c hc => ⟨(hspared _ i hi a ha c hc).1, fun _ => ⟨.running, rfl, by simp⟩⟩)
    (fun i hi a ha c hc => ⟨(hspared _ i hi a ha c hc).1, fun he => absurd he (by decide)⟩) rfl rfl
  have hresult := congrArg Ran.result hrun
  simpa only [Ran.seen, Except.map_id, id_eq] using hresult

/-- A send timeout that no clock can hold ends the run at the first chunk, if there is an echo. -/
theorem fault_of_send_timeout :
    ¬ ∀ (s s' : Server) (around : Surroundings) (socket socket' : ServerSocket),
      (∀ i ∈ socket.script, ∀ a, i.payload? = some a → ∀ c, a.connection? = some c →
        Peer.renders c.sender = true ∧ (∀ j ∈ c.script, j.spares = true) ∧ .stall ∉ c.sends) →
      muted.server s = muted.server s' →
      muted.socket s.config.mode socket = muted.socket s'.config.mode socket' →
      (s.run around socket).result = (s'.run around socket').result := by
  intro h
  have h0 := h (repeating (.bool true) (.int (10 ^ 400)))
    (repeating (.bool false) (.int (10 ^ 400))) ⟨true, true, 0, false⟩ (calling []) (calling []) ?_
    rfl rfl
  · have h1 := congrArg Except.isOk h0
    exact absurd h1 (by decide +kernel)
  · have hr : Peer.renders (.tuple [.text "192.0.2.10", .int 36412]) = true := by decide +kernel
    simp [calling, Item.delivering, Item.spares, hr]

end Server

end SctpProbe
