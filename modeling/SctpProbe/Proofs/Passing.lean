import SctpProbe.Proofs.Release
import SctpProbe.Proofs.Sending
import SctpProbe.Proofs.Views.Run
set_option autoImplicit false

namespace SctpProbe

open Network

def Config.clocked (c : Config) : Bool := (Network.Limit.ofNumber c.pollTimeout).isOk

namespace Network

variable {α : Type}

/-- Whether an item lets a wait or the call after it come to nothing, so that it is made again. -/
def Item.passes (i : Item α) : Bool :=
  i.quiet && match i.poll with
    | .timedOut => true
    | .interrupted => true
    | .interruptedWait => true
    | .closed => false
    | .error => decide ((i.error?.getD .bare).kind = .interrupted)
    | .ready =>
      match i.delivery with
      | .error e => e.isTransient
      | .ok _ => false

theorem Item.quiet_of_passes {i : Item α} (h : i.passes = true) : i.quiet = true := by
  rw [passes, Bool.and_eq_true] at h
  exact h.1

/-- Waits, calls that come to nothing, and what is said before a connection is accepted. -/
def Event.passing : Event → Bool
  | .waited _ _ _ => true
  | .acceptFailed _ e => e.isTransient
  | .receiveFailed _ e => e.isTransient
  | .receiveMessageFailed _ e => e.isTransient
  | .log e => decide (e = .plain .debug .stream "Going to accept()")
  | _ => false

/-- A socket that can be waited for: its descriptor is there and a clock can hold the timeout. -/
structure Waitable (c : Context) (e : Endpoint α) : Prop where
  open_ : e.shut = false
  clocked : c.config.clocked = true

theorem Waitable.of_config {β : Type} {c d : Context} {e : Endpoint α} {f : Endpoint β}
    (h : Waitable c e) (hc : d.config = c.config) (hf : f.shut = false) : Waitable d f :=
  ⟨hf, hc ▸ h.clocked⟩

theorem shut_wait {timeout : Value} {t : Token} {e : Endpoint α}
    (h : ∀ err, (wait timeout t e).found ≠ .broken err) :
    (wait timeout t e).endpoint.shut = e.shut := by
  rw [endpoint_wait]
  unfold Endpoint.advanced
  split
  · rfl
  · next i rest hs =>
    by_cases hp : i.poll = .closed
    · exact absurd (by simp [wait, hs, outcome, registration, hp, Waited.ofOutcome,
        Found.ofOutcome]) (h .noDescriptor)
    · simp [hp]

end Network

/-- The view of somebody who takes no notice of what passes. -/
def patient : View where
  keeps e := !e.passing
  skips i := i.passes
  sends s := s
  echo x := x
  verbose x := x
  sendTimeout x := x
  skips_delivering _ := rfl
  truthy_verbose _ := rfl

namespace Network

variable {α : Type}

theorem meets_or_passes (e : Endpoint α) :
    patient.Meets e ∨ ∃ i rest, e.script = i :: rest ∧ i.passes = true := by
  cases hs : e.script with
  | nil => exact .inl (by simp [View.Meets, hs])
  | cons i rest =>
    cases hp : i.passes with
    | true => exact .inr ⟨i, rest, rfl, hp⟩
    | false => exact .inl (by simp [View.Meets, hs, patient, hp])

theorem outcome_of_passing {timeout : Value} {limit : Limit} {i : Item α}
    (hl : Limit.ofValue timeout = .ok limit) (hp : i.passes = true) :
    ∃ o, outcome timeout false i = .ok o ∧ (o = .timedOut ∨ o = .interrupted ∨
      o = .ready ∧ ∃ err, i.delivery = .error err ∧ err.isTransient = true) := by
  simp only [Item.passes, Bool.and_eq_true] at hp
  simp only [outcome, registration, hl, Except.map, outcomeWithin]
  cases hpoll : i.poll with
  | timedOut => simp
  | interrupted => simp
  | interruptedWait => by_cases he : limit = .expired <;> simp [he]
  | closed => simp [hpoll] at hp
  | error =>
    simp only [hpoll, decide_eq_true_eq] at hp
    simp [hp.2]
  | ready =>
    simp only [hpoll] at hp
    have hd : ∃ err, i.delivery = .error err ∧ err.isTransient = true := by
      cases hd : i.delivery with
      | ok p => simp [hd] at hp
      | error err => exact ⟨err, rfl, by simpa [hd] using hp.2⟩
    by_cases he : limit = .expired <;> simp [he, hd]

/-- A passing item costs a wait and perhaps a call, and nothing can be seen of it afterwards. -/
theorem wait_of_passing {c : Context} {e : Endpoint α} {i : Item α} {rest : List (Item α)}
    (h : Waitable c e) (hs : e.script = i :: rest) (hp : i.passes = true) (t : Token) :
    ∃ x found, x.passing = true ∧
      wait c.config.pollTimeout.toValue t e = ⟨[x], t, { e with script := rest }, found⟩ ∧
      (found = .idle ∨
        found = .ready i ∧ ∃ err, i.delivery = .error err ∧ err.isTransient = true) := by
  obtain ⟨limit, hl⟩ : ∃ limit, Limit.ofNumber c.config.pollTimeout = .ok limit := by
    have hc := h.clocked
    unfold Config.clocked at hc
    cases hl : Limit.ofNumber c.config.pollTimeout with
    | error f => simp [hl, Except.isOk, Except.toBool] at hc
    | ok limit => exact ⟨limit, rfl⟩
  obtain ⟨o, ho, hcases⟩ :=
    outcome_of_passing ((Limit.ofValue_toValue c.config.pollTimeout).trans hl) hp
  have hclosed : i.poll ≠ .closed := by
    intro hc
    simp [Item.passes, hc] at hp
  have hw : wait c.config.pollTimeout.toValue t e =
      ⟨[.waited e.id c.config.pollTimeout.toValue o], t, { e with script := rest },
        .ofOutcome (some i) o⟩ := by
    have hstrike := Token.strike_quiet (Item.quiet_of_passes hp) t .wait
    simp [wait, hs, h.open_, ho, hstrike, hclosed, Waited.ofOutcome]
  refine ⟨_, _, rfl, hw, ?_⟩
  rcases hcases with rfl | rfl | ⟨rfl, hd⟩
  · exact .inl rfl
  · exact .inl rfl
  · exact .inr ⟨rfl, hd⟩

theorem endpoint_of_passing {β : Type} (f : α → β) {e : Endpoint α} {i : Item α}
    {rest : List (Item α)} (hs : e.script = i :: rest) (hp : i.passes = true) :
    patient.endpoint f { e with script := rest } = patient.endpoint f e := by
  have h := patient.script_skip f hp rest
  simp only [View.endpoint, hs, h]

end Network

namespace Stream.Session

theorem unnoticed {s : Session} {i : Item (List UInt8)} {rest : List (Item (List UInt8))}
    (hc : s.token.cancelled = false) (h : Waitable s.context s.endpoint)
    (hs : s.endpoint.script = i :: rest) (hp : i.passes = true) :
    Unnoticed patient.keeps patient.session turn s := by
  obtain ⟨x, found, hx, hw, hfound⟩ := wait_of_passing h hs hp s.token
  have hpoll : s.poll = _ := hw
  have hseen : patient.session { s with endpoint.script := rest } = patient.session s := by
    simp only [View.session, endpoint_of_passing id hs hp]
  rcases hfound with rfl | ⟨rfl, err, hd, ht⟩
  · have hturn : s.turn = .again [x] { s with endpoint.script := rest } := by
      simp only [turn, hc, hpoll]
      rfl
    exact ⟨_, _, hturn, by simp [patient, hx], hseen⟩
  · have hturn : s.turn = .again ([x] ++ [.receiveFailed s.endpoint.id err])
        { s with endpoint.script := rest } := by
      simp [turn, hc, hpoll, Token.strike_quiet (Item.quiet_of_passes hp), receive, hd, ht,
        Turn.after]
    have hpass : (Event.receiveFailed s.endpoint.id err).passing = true := ht
    exact ⟨_, _, hturn, by simp [patient, hx, hpass], hseen⟩

theorem seen_turn {s : Session} (h : Waitable s.context s.endpoint) :
    (patient.session s).turn.seen patient.keeps id id =
      s.turn.seen patient.keeps patient.session id ∨
    Unnoticed patient.keeps patient.session turn s := by
  have ha (s : Session) (item : Item (List UInt8)) : AnswersAlike patient s item := fun _ _ => rfl
  rcases meets_or_passes s.endpoint with hm | ⟨i, rest, hs, hp⟩
  · exact .inl (turn_seen (fun _ => hm) fun item _ => ha _ item)
  · cases hc : s.token.cancelled with
    | true => exact .inl (turn_seen (fun hf => by simp [hc] at hf) fun item _ => ha _ item)
    | false => exact .inr (unnoticed hc h hs hp)

theorem waitable_again {s next : Session} {trace : Trace} (h : Waitable s.context s.endpoint)
    (ht : s.turn = .again trace next) : Waitable next.context next.endpoint := by
  refine h.of_config (frame_again ht).context.config ?_
  cases step_again ht with
  | idle _ hf => exact (shut_wait (by simp [show wait _ _ _ = s.poll from rfl, hf])).trans h.open_
  | @again item _ _ _ hf hr =>
    have hshut : (s.called item).endpoint.shut = false :=
      (shut_wait (by simp [show wait _ _ _ = s.poll from rfl, hf])).trans h.open_
    cases hr with
    | retried => exact hshut
    | dumped => exact hshut
    | echoed => exact hshut

theorem seen_run {s : Session} (h : Waitable s.context s.endpoint) :
    (patient.session s).run.seen patient.keeps id id =
      s.run.seen patient.keeps patient.session id :=
  loop_seen (fun s => Waitable s.context s.endpoint) (fun _ _ _ => waitable_again)
    (fun _ => seen_turn) s h

end Stream.Session

namespace Stream.Listener

theorem unnoticed {s : Listener} {i : Item Connection} {rest : List (Item Connection)}
    (hc : s.token.cancelled = false) (h : Waitable s.context s.endpoint)
    (hs : s.endpoint.script = i :: rest) (hp : i.passes = true) :
    Unnoticed patient.keeps patient.listener acceptTurn s := by
  obtain ⟨x, found, hx, hw, hfound⟩ := wait_of_passing h hs hp s.token
  have hpoll : s.poll = _ := hw
  have hseen : patient.listener { s with endpoint.script := rest } = patient.listener s := by
    simp only [View.listener, endpoint_of_passing _ hs hp]
  rcases hfound with rfl | ⟨rfl, err, hd, ht⟩
  · have hturn : s.acceptTurn = .again [x]
        { s with endpoint.script := rest } := by
      simp only [acceptTurn, hc, hpoll]
      rfl
    exact ⟨_, _, hturn, by simp [patient, hx], hseen⟩
  · have hturn : s.acceptTurn = .again ([x] ++
        Trace.speak .debug .stream "Going to accept()" ++ [.acceptFailed s.endpoint.id err])
        { s with endpoint.script := rest } := by
      simp [acceptTurn, hc, hpoll, Token.strike_quiet (Item.quiet_of_passes hp), acceptItem, hd, ht,
        Turn.after]
    have hpass : (Event.acceptFailed s.endpoint.id err).passing = true := ht
    have hgoing : (Event.log (.plain .debug .stream "Going to accept()")).passing = true := rfl
    exact ⟨_, _, hturn, by simp [patient, hx, Trace.speak, hpass, hgoing], hseen⟩

theorem waitable_polled {s : Listener} (h : Waitable s.context s.endpoint)
    (hf : ∀ err, s.poll.found ≠ .broken err) : Waitable s.polled.context s.polled.endpoint :=
  h.of_config rfl ((shut_wait hf).trans h.open_)

theorem seen_accept {s : Listener} (h : Waitable s.context s.endpoint) :
    (patient.listener s).accept.seen patient.keeps id id =
        s.accept.seen patient.keeps patient.listener patient.accepted := by
  refine loop_seen (fun s : Listener => Waitable s.context s.endpoint) ?_ ?_ s h
  · intro s trace next h ht
    cases step_again ht with
    | idle _ hf => exact waitable_polled h (by simp [hf])
    | again _ hf ha =>
      cases ha with
      | retried => exact waitable_polled h (by simp [hf])
  · intro s h
    rcases meets_or_passes s.endpoint with hm | ⟨i, rest, hs, hp⟩
    · exact .inl (acceptTurn_seen fun _ => hm)
    · cases hc : s.token.cancelled with
      | true => exact .inl (acceptTurn_seen fun hf => by simp [hc] at hf)
      | false => exact .inr (unnoticed hc h hs hp)

/-- Accepting that ends well leaves a socket that can be waited for. -/
theorem waitable_accept {s : Listener} (h : Waitable s.context s.endpoint) {a : Accepted}
    (hr : s.accept.result = .ok a) : Waitable s.accept.state.context s.accept.state.endpoint := by
  refine loop_induction (fun s ran => Waitable s.context s.endpoint → ran.result = .ok a →
    Waitable ran.state.context ran.state.endpoint) ?_ ?_ s h hr
  · intro s ran ht h hr
    cases step_done ht with
    | stopped => exact h
    | broken => simp at hr
    | refused => simp at hr
    | done _ hf ha =>
      have hp := waitable_polled h (by simp [hf])
      cases ha with
      | failed => simp at hr
      | blocking => simp at hr
      | nameless => simp at hr
      | taken => exact hp
  · intro s trace next ran ht ih h hr
    cases step_again ht with
    | idle _ hf => exact ih (waitable_polled h (by simp [hf])) hr
    | again _ hf ha =>
      cases ha with
      | retried => exact ih (waitable_polled h (by simp [hf])) hr

theorem seen_runOnce {s : Listener} (h : Waitable s.context s.endpoint) :
    (patient.listener s).runOnce.seen patient.keeps id id =
      s.runOnce.seen patient.keeps patient.listener id := by
  refine runOnce_seen (seen_accept h) fun conn peer hr => Session.seen_run ?_
  refine (waitable_accept h hr).of_config rfl ?_
  have ha := s.accepting
  generalize s.accept = ran at ha hr
  cases ha with
  | without q hw => exact absurd hr (hw _)
  | connected q hi hd =>
    obtain ⟨-, rfl, -⟩ := of_handover_ok hr
    rfl

theorem waitable_runOnce {s : Listener} (h : Waitable s.context s.endpoint)
    (hr : s.runOnce.result = .ok true) :
    Waitable s.runOnce.state.context s.runOnce.state.endpoint := by
  have hround := s.rounding
  generalize s.runOnce = ran at hround hr ⊢
  cases hround with
  | stopped ha => exact waitable_accept h ha
  | failed => simp at hr
  | faulted => simp at hr
  | unshown => simp at hr
  | @served conn peer shown ha hp =>
    have hl := lasting_served s.accept.state conn
    simp only [Ran.state_after, serve_eq]
    exact (waitable_accept h ha).of_config hl.context.config (waitable_accept h ha).open_

theorem seen_service {s : Listener} (h : Waitable s.context s.endpoint) :
    (patient.listener s).service.seen patient.keeps id id =
      s.service.seen patient.keeps patient.listener id :=
  loop_round_seen (f := patient.listener) (fun _ => rfl)
    (fun s : Listener => Waitable s.context s.endpoint)
    (fun _ => waitable_runOnce) (fun _ => seen_runOnce) h

end Stream.Listener

namespace Messaging.Mailbox

theorem unnoticed {s : Mailbox} {i : Item Message} {rest : List (Item Message)}
    (hc : s.token.cancelled = false) (h : Waitable s.context s.endpoint)
    (hs : s.endpoint.script = i :: rest) (hp : i.passes = true) :
    Unnoticed patient.keeps patient.mailbox turn s := by
  obtain ⟨x, found, hx, hw, hfound⟩ := wait_of_passing h hs hp s.token
  have hpoll : s.poll = _ := hw
  have hseen : patient.mailbox { s with endpoint.script := rest } = patient.mailbox s := by
    simp only [View.mailbox, endpoint_of_passing _ hs hp]
  rcases hfound with rfl | ⟨rfl, err, hd, ht⟩
  · have hturn : s.turn = .again [x] { s with endpoint.script := rest } := by
      simp only [turn, hc, hpoll]
      rfl
    exact ⟨_, _, hturn, by simp [patient, hx], hseen⟩
  · have hturn : s.turn = .again ([x] ++
        [.receiveMessageFailed s.endpoint.id err]) { s with endpoint.script := rest } := by
      simp [turn, hc, hpoll, Token.strike_quiet (Item.quiet_of_passes hp), receive, hd, ht,
        Turn.after]
    have hpass : (Event.receiveMessageFailed s.endpoint.id err).passing = true := ht
    exact ⟨_, _, hturn, by simp [patient, hx, hpass], hseen⟩

theorem seen_turn {s : Mailbox} (h : Waitable s.context s.endpoint) :
    (patient.mailbox s).turn.seen patient.keeps id id =
      s.turn.seen patient.keeps patient.mailbox id ∨
    Unnoticed patient.keeps patient.mailbox turn s := by
  have ha (s : Mailbox) (item : Item Message) : AnswersAlike patient s item := by
    intro p
    unfold answer echo
    change Ran.seen _ _ _ (if s.context.echo.truthy then _ else _) = _
    cases s.context.echo.truthy with
    | false => rfl
    | true =>
      cases p.sender.truthy with
      | false => rfl
      | true => cases DeliveryInfo.reply (informed p.control).2 <;> rfl
  rcases meets_or_passes s.endpoint with hm | ⟨i, rest, hs, hp⟩
  · exact .inl (turn_seen (fun _ => hm) fun item _ m _ => ha _ item)
  · cases hc : s.token.cancelled with
    | true => exact .inl (turn_seen (fun hf => by simp [hc] at hf) fun item _ m _ => ha _ item)
    | false => exact .inr (unnoticed hc h hs hp)

theorem shut_handle (s : Mailbox) (item : Item Message) (p : Piece) :
    (s.handle item p).state.endpoint.shut = s.endpoint.shut := by
  have hh := s.handling item p
  generalize s.handle item p = ran at hh ⊢
  cases hh with
  | unshown => rfl
  | reported => rfl
  | echoed =>
    simp only [Ran.state_after, echo]
    split
    · rfl
    · split <;> rfl

theorem waitable_again {s next : Mailbox} {trace : Trace} (h : Waitable s.context s.endpoint)
    (ht : s.turn = .again trace next) : Waitable next.context next.endpoint := by
  refine h.of_config (frame_again ht).context.config ?_
  cases step_again ht with
  | idle _ hf => exact (shut_wait (by simp [show wait _ _ _ = s.poll from rfl, hf])).trans h.open_
  | @again item _ _ _ hf hr =>
    have hshut : (s.called item).endpoint.shut = false :=
      (shut_wait (by simp [show wait _ _ _ = s.poll from rfl, hf])).trans h.open_
    cases hr with
    | retried => exact hshut
    | notified => exact hshut
    | closed => exact hshut
    | handled => exact (shut_handle _ _ _).trans hshut

theorem seen_runOnce {s : Mailbox} (h : Waitable s.context s.endpoint) :
    (patient.mailbox s).runOnce.seen patient.keeps id id =
      s.runOnce.seen patient.keeps patient.mailbox id :=
  loop_seen (fun s => Waitable s.context s.endpoint) (fun _ _ _ => waitable_again)
    (fun _ => seen_turn) s h

end Messaging.Mailbox

namespace Server

theorem seen_run {s : Server} (h : s.config.clocked = true)
    (around : Surroundings) (socket : ServerSocket) :
    ((patient.server s).run around (patient.socket s.config.mode socket)).seen patient.keeps id id =
      (s.run around socket).seen patient.keeps patient.server id := by
  refine run_seen around (fun c => ⟨rfl, rfl⟩) fun c hc => ?_
  have hw {α : Type} (e : Endpoint α) (he : e.shut = false) :
      Waitable (s.prepared socket c).2 e := by
    refine ⟨he, ?_⟩
    rw [config_prepared hc]
    exact h
  unfold ServesAlike
  split
  · exact Stream.Listener.seen_service (hw _ rfl)
  · exact Messaging.Mailbox.service_seen (Messaging.Mailbox.seen_runOnce (hw _ rfl))

theorem closings_of_seen {t u : Trace} (h : t.filter patient.keeps = u.filter patient.keeps)
    (q : SocketId) : t.closings q = u.closings q := by
  have hc (w : Trace) : w.closings q = Trace.closings q (w.filter patient.keeps) := by
    simp only [Trace.closings, List.countP_filter]
    refine List.countP_congr fun e _ => ?_
    cases e <;> simp [patient, Event.passing]
  rw [hc t, hc u, h]

end Server

/-- Two runs come to the same and look the same, waits and futile calls apart, if their scripts are
the same but for items that pass. -/
theorem passing_unnoticed :
    (∀ s s' : Stream.Session, Waitable s.context s.endpoint →
      patient.session s = patient.session s' →
      s.run.seen patient.keeps patient.session id =
        s'.run.seen patient.keeps patient.session id) ∧
    (∀ s s' : Stream.Listener, Waitable s.context s.endpoint →
      patient.listener s = patient.listener s' →
      s.runOnce.seen patient.keeps patient.listener id =
        s'.runOnce.seen patient.keeps patient.listener id) ∧
    (∀ s s' : Messaging.Mailbox, Waitable s.context s.endpoint →
      patient.mailbox s = patient.mailbox s' →
      s.runOnce.seen patient.keeps patient.mailbox id =
        s'.runOnce.seen patient.keeps patient.mailbox id) ∧
    ∀ (s s' : Server) (around : Surroundings) (socket socket' : ServerSocket),
      s.config.clocked = true →
      patient.server s = patient.server s' →
      patient.socket s.config.mode socket = patient.socket s'.config.mode socket' →
      (s.run around socket).seen patient.keeps patient.server id =
        (s'.run around socket').seen patient.keeps patient.server id ∧
      ∀ q, (s.run around socket).trace.closings q = (s'.run around socket').trace.closings q := by
  refine ⟨fun s s' h hs => ?_, fun s s' h hs => ?_, fun s s' h hs => ?_,
    fun s s' around socket socket' h hs hk => ?_⟩
  · have h' : Waitable s'.context s'.endpoint := by
      have he := congrArg Stream.Session.endpoint hs
      exact h.of_config (congrArg (fun s => s.context.config) hs).symm
        ((congrArg Endpoint.shut he).symm.trans h.open_)
    rw [← Stream.Session.seen_run h, ← Stream.Session.seen_run h', hs]
  · have h' : Waitable s'.context s'.endpoint := by
      have he := congrArg Stream.Listener.endpoint hs
      exact h.of_config (congrArg (fun s => s.context.config) hs).symm
        ((congrArg Endpoint.shut he).symm.trans h.open_)
    rw [← Stream.Listener.seen_runOnce h, ← Stream.Listener.seen_runOnce h', hs]
  · have h' : Waitable s'.context s'.endpoint := by
      have he := congrArg Messaging.Mailbox.endpoint hs
      exact h.of_config (congrArg (fun s => s.context.config) hs).symm
        ((congrArg Endpoint.shut he).symm.trans h.open_)
    rw [← Messaging.Mailbox.seen_runOnce h, ← Messaging.Mailbox.seen_runOnce h', hs]
  · have hc : s'.config = s.config := (congrArg Server.config hs).symm
    have hrun : (s.run around socket).seen patient.keeps patient.server id =
        (s'.run around socket').seen patient.keeps patient.server id := by
      rw [← Server.seen_run h, ← Server.seen_run (hc ▸ h), hs, hk]
    exact ⟨hrun, Server.closings_of_seen (congrArg Ran.trace hrun)⟩

namespace Server

def lull {α : Type} : Item α := ⟨.ready, none, none, none, none⟩

def visited (pauses : List (Item Arrival)) (rests : List (Item (List UInt8))) : ServerSocket :=
  { ServerSocket.silent with script := pauses ++ [.delivering ⟨some ⟨.tuple [.text "192.0.2.10",
    .int 36412], rests ++ [.delivering [120]], [], none⟩, none⟩] }

theorem passing_unnoticed_visited :
    ((new Config.usual).run ⟨true, true, 0, false⟩ (visited [lull, lull] [lull])).result =
        ((new Config.usual).run ⟨true, true, 0, false⟩ (visited [] [])).result ∧
      ((new Config.usual).run ⟨true, true, 0, false⟩ (visited [lull, lull] [lull])).trace.filter
          patient.keeps =
        ((new Config.usual).run ⟨true, true, 0, false⟩ (visited [] [])).trace.filter
          patient.keeps := by
  obtain ⟨-, -, -, h⟩ := passing_unnoticed
  obtain ⟨hrun, -⟩ := h (new Config.usual) (new Config.usual) ⟨true, true, 0, false⟩
    (visited [lull, lull] [lull]) (visited [] []) (by decide +kernel) rfl rfl
  have hresult := congrArg Ran.result hrun
  simp only [Ran.seen, Except.map_id, id_eq] at hresult
  exact ⟨hresult, congrArg Ran.trace hrun⟩

def endless : Server :=
  new { Config.usual with
    pollTimeout := .int (Nat.pow 10 400)
    pollTimeout_not_atMost := by decide +kernel }

def unusable (pauses : List (Item Arrival)) : ServerSocket :=
  { ServerSocket.silent with script := pauses ++
    [⟨.error, some (.numbered (some 5) (some "Input/output error")), none, none, none⟩] }

/-- A failure to register a socket comes before a look at the timeout, a wait that times out after
it. -/
theorem fault_of_pause :
    ¬ ∀ (s s' : Server) (around : Surroundings) (socket socket' : ServerSocket),
      (∀ i ∈ socket.script, i.quiet = true ∧
        ∀ a, i.payload? = some a → ∀ c, a.connection? = some c → ∀ j ∈ c.script, j.quiet = true) →
      patient.server s = patient.server s' →
      patient.socket s.config.mode socket = patient.socket s'.config.mode socket' →
      (s.run around socket).result = (s'.run around socket').result := by
  intro h
  have hquiet : ∀ i ∈ (unusable []).script, i.quiet = true ∧
      ∀ a, i.payload? = some a → ∀ c, a.connection? = some c → ∀ j ∈ c.script, j.quiet = true := by
    simp [unusable, Item.quiet]
  have h0 := h endless endless ⟨true, true, 0, false⟩ (unusable [])
    (unusable [⟨.timedOut, none, none, none, none⟩]) hquiet rfl rfl
  have h1 := congrArg Except.isOk h0
  exact absurd h1 (by decide +kernel)

end Server

end SctpProbe
