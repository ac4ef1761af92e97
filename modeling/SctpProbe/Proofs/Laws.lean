import SctpProbe.Proofs.Release
set_option autoImplicit false

/-!
Laws: relations between the token before a part of a run, what the part shows, and the token after
it. A law that holds of every wait and call and of what is said in between, and that goes over from
parts to the whole, holds of all loops (`Law.mainLoop`).
-/

namespace SctpProbe

open Network

namespace Network

/-- Whether an event is a wait, or a call that takes something in or sends something. -/
def Event.isTraffic : Event → Bool
  | .waited _ _ _ => true
  | .accepted _ _ _ => true
  | .acceptFailed _ _ => true
  | .received _ _ _ => true
  | .receiveFailed _ _ => true
  | .receivedMessage _ _ _ _ _ => true
  | .receiveMessageFailed _ _ => true
  | .sent _ _ => true
  | .sendFailed _ _ => true
  | .sentMessage _ _ _ _ _ _ => true
  | _ => false

/-- What loops show between waits and calls; the server itself says nothing as long as they run. -/
def Event.isRemark : Event → Bool
  | .line _ => true
  | .log e => e.speaker != .server
  | .unblocked _ _ => true
  | .closed _ => true
  | _ => false

def Trace.Remarks (t : Trace) : Prop := ∀ e ∈ t, e.isRemark = true

namespace Trace

variable {t u : Trace}

theorem remarks_nil : Remarks [] := by simp [Remarks]

theorem remarks_append : Remarks (t ++ u) ↔ Remarks t ∧ Remarks u := by
  simp [Remarks, or_imp, forall_and]

theorem remarks_singleton {e : Event} : Remarks [e] ↔ e.isRemark = true := by simp [Remarks]

theorem remarks_speak (level : Log.Level) {speaker : Log.Speaker} (h : speaker ≠ .server)
    (message : String) : Remarks (speak level speaker message) := by
  simp [Remarks, speak, Event.isRemark, Log.Entry.plain, h]

theorem remarks_console (text : String) : Remarks (console text) := by
  intro e he
  simp only [console, List.mem_map] at he
  obtain ⟨l, -, rfl⟩ := he
  rfl

end Trace

/-- `spared` are the faults of the timeout that a law can do with. -/
structure Law (timeout : Value) (spared : Fault → Prop) (R : Token → Trace → Token → Prop) :
    Prop where
  system : ∀ e, spared (.system e)
  nothing : ∀ t, R t [] t
  join : ∀ {a b c t u}, R a t b → R b u c → R a (t ++ u) c
  remark : ∀ t {e}, e.isRemark = true → R t [e] t
  wait : ∀ {α : Type} (t : Token) (e : Endpoint α),
    (∀ f, (wait timeout t e).found = .refused f → spared f) →
    R t (wait timeout t e).trace (wait timeout t e).token
  call : ∀ {α : Type} (t : Token) (i : Item α) (m : Moment) {e}, e.isTraffic = true →
    R t ((t.strike i m).1 ++ [e]) (t.strike i m).2

end Network

namespace Network.Law

variable {timeout : Value} {spared : Fault → Prop} {R : Token → Trace → Token → Prop}

theorem remarks (law : Law timeout spared R) {u : Trace} (h : u.Remarks) (t : Token) : R t u t := by
  induction u with
  | nil => exact law.nothing t
  | cons e rest ih =>
    exact law.join (law.remark t (h e List.mem_cons_self))
      (ih fun x hx => h x (List.mem_cons_of_mem e hx))

theorem calling {α : Type} (law : Law timeout spared R) (t : Token) (i : Item α) (m : Moment)
    {e : Event} {rest : Trace} {c : Token} (he : e.isTraffic = true)
    (hr : R (t.strike i m).2 rest c) :
    R t ((t.strike i m).1 ++ e :: rest) c := by
  have h := law.join (law.call t i m he) hr
  rwa [List.append_assoc] at h

end Network.Law

namespace Stream

open Trace (remarks_append remarks_singleton remarks_speak remarks_console)

section

variable {timeout : Value} {spared : Fault → Prop} {R : Token → Trace → Token → Prop}

theorem law_echo (law : Law timeout spared R) (sendTimeout : Value) (id : SocketId)
    (item : Item (List UInt8)) (sends : List Send) (token : Token) (bytes : List UInt8) :
    R token (echo sendTimeout id item sends token bytes).trace
      (echo sendTimeout id item sends token bytes).token := by
  refine composed_echo ⟨law.nothing, law.join⟩ _ _ _
    (fun t _ _ => law.remarks (remarks_speak _ (by simp) _) t)
    fun t e he => law.call t item .send ?_
  cases he <;> rfl

end

namespace Session

variable {timeout : Value} {spared : Fault → Prop} {R : Token → Trace → Token → Prop}
  {s : Session} {item : Item (List UInt8)}

theorem remarks_report (s : Session) (bytes : List UInt8) : ∃ rest, Trace.Remarks rest ∧
    s.report bytes = .received s.endpoint.id s.context.room (s.chunk bytes).length :: rest := by
  refine ⟨_, remarks_append.2 ⟨?_, remarks_console _⟩, rfl⟩
  exact remarks_speak _ (show Log.Speaker.stream ≠ .server by simp) _

theorem law_poll (law : Law timeout spared R)
    (h : s.context.config.pollTimeout.toValue = timeout)
    (hf : ∀ f, s.poll.found = .refused f → spared f) :
    R s.token s.poll.trace s.polled.token := by
  subst h
  exact law.wait s.token s.endpoint hf

theorem law_called (law : Law timeout spared R)
    (h : s.context.config.pollTimeout.toValue = timeout) (hf : s.poll.found = .ready item)
    {e : Event} {rest : Trace} {c : Token} (he : e.isTraffic = true)
    (hr : R (s.called item).token rest c) : R s.token (s.approach item ++ e :: rest) c := by
  have hw := law.join (law_poll law h (by simp [hf])) (law.calling s.poll.token item .call he hr)
  rwa [← List.append_assoc] at hw

theorem law_reply (law : Law timeout spared R) (s : Session) (item : Item (List UInt8))
    (bytes : List UInt8) : ∃ rest,
    s.report bytes ++ (s.reply item bytes).trace =
      .received s.endpoint.id s.context.room (s.chunk bytes).length :: rest ∧
      R s.token rest (s.replied item bytes).token := by
  obtain ⟨rest, hr, he⟩ := s.remarks_report bytes
  exact ⟨rest ++ (s.reply item bytes).trace, by rw [he]; rfl,
    law.join (law.remarks hr _) (law_echo law _ _ _ _ _ _)⟩

theorem law_receipt_again (law : Law timeout spared R) {trace : Trace} {next : Session}
    (h : Receipt s item (.again trace next)) :
    ∃ e rest, trace = e :: rest ∧ e.isTraffic = true ∧ R s.token rest next.token := by
  cases h with
  | retried => exact ⟨_, [], rfl, rfl, law.nothing _⟩
  | @dumped bytes =>
    obtain ⟨rest, hr, he⟩ := s.remarks_report bytes
    exact ⟨_, rest, he, rfl, law.remarks hr _⟩
  | @echoed bytes =>
    obtain ⟨rest, he, hr⟩ := law_reply law s item bytes
    exact ⟨_, rest, he, rfl, hr⟩

theorem law_receipt_done (law : Law timeout spared R) {ran : Ran Session Bool}
    (h : Receipt s item (.done ran)) :
    ∃ e rest, ran.trace = e :: rest ∧ e.isTraffic = true ∧ R s.token rest ran.state.token := by
  cases h with
  | failed => exact ⟨_, _, rfl, rfl, law.remarks (remarks_speak _ (by simp) _) _⟩
  | closed => exact ⟨_, _, rfl, rfl, law.remarks (remarks_console _) _⟩
  | @aborted bytes =>
    obtain ⟨rest, he, hr⟩ := law_reply law s item bytes
    exact ⟨_, rest, he, rfl, hr⟩

theorem law_again (law : Law timeout spared R) (h : s.context.config.pollTimeout.toValue = timeout)
    {trace : Trace} {next : Session} (ht : s.turn = .again trace next) :
    R s.token trace next.token := by
  cases step_again ht with
  | idle _ hf => exact law_poll law h (by simp [hf])
  | again _ hf hr =>
    obtain ⟨e, rest, rfl, he, hrest⟩ := law_receipt_again law hr
    exact law_called law h hf he hrest

theorem law_done (law : Law timeout spared R)
    (h : s.context.config.pollTimeout.toValue = timeout) {ran : Ran Session Bool}
    (ht : s.turn = .done ran) (hs : ∀ f, ran.result = .error f → spared f) :
    R s.token ran.trace ran.state.token := by
  cases step_done ht with
  | stopped => exact law.nothing _
  | broken _ hf =>
    exact law.join (law_poll law h (by simp [hf])) (law.remarks (remarks_speak _ (by simp) _) _)
  | @refused f _ hf =>
    refine law_poll law h fun g hg => ?_
    rw [hf, Found.refused.injEq] at hg
    exact hs g (by rw [hg])
  | done _ hf hr =>
    obtain ⟨e, rest, htrace, he, hrest⟩ := law_receipt_done law hr
    rw [Ran.trace_after, htrace]
    exact law_called law h hf he hrest

theorem law_run (law : Law timeout spared R) (s : Session)
    (h : s.context.config.pollTimeout.toValue = timeout)
    (hs : ∀ f, s.run.result = .error f → spared f) :
    R s.token s.run.trace s.run.state.token := by
  refine loop_induction (fun s ran => s.context.config.pollTimeout.toValue = timeout →
    (∀ f, ran.result = .error f → spared f) → R s.token ran.trace ran.state.token) ?_ ?_ s h hs
  · intro s ran ht h hs
    exact law_done law h ht hs
  · intro s trace next ran ht ih h hs
    exact law.join (law_again law h ht) (ih (by rw [(frame_again ht).context.config, h]) hs)

end Session

namespace Listener

variable {timeout : Value} {spared : Fault → Prop} {R : Token → Trace → Token → Prop}
  {s : Listener} {item : Item Connection}

theorem law_poll (law : Law timeout spared R)
    (h : s.context.config.pollTimeout.toValue = timeout)
    (hf : ∀ f, s.poll.found = .refused f → spared f) :
    R s.token s.poll.trace s.polled.token := by
  subst h
  exact law.wait s.token s.endpoint hf

theorem law_called (law : Law timeout spared R)
    (h : s.context.config.pollTimeout.toValue = timeout) (hf : s.poll.found = .ready item)
    {e : Event} {rest : Trace} {c : Token} (he : e.isTraffic = true)
    (hr : R (s.called item).token rest c) : R s.token (s.approach item ++ e :: rest) c := by
  have hgoing : R s.poll.token (Trace.speak .debug .stream "Going to accept()") s.poll.token :=
    law.remarks (remarks_speak _ (by simp) _) _
  have hw := law.join (law.join (law_poll law h (by simp [hf])) hgoing)
    (law.calling s.poll.token item .call he hr)
  rwa [← List.append_assoc] at hw

theorem law_done (law : Law timeout spared R)
    (h : s.context.config.pollTimeout.toValue = timeout) {ran : Ran Listener Accepted}
    (ht : s.acceptTurn = .done ran) (hs : ∀ f, ran.result = .error f → spared f) :
    R s.token ran.trace ran.state.token := by
  have hunblocked : ∀ (q : SocketId) (c : Connection) t, R t [.unblocked q c.unblocking?] t :=
    fun q c t => law.remark t rfl
  cases step_done ht with
  | stopped => exact law.nothing _
  | broken _ hf => exact law_poll law h (by simp [hf])
  | @refused f _ hf =>
    refine law_poll law h fun g hg => ?_
    rw [hf, Found.refused.injEq] at hg
    exact hs g (by rw [hg])
  | done _ hf ha =>
    cases ha with
    | failed => exact law_called law h hf rfl (law.nothing _)
    | @blocking c => exact law_called law h hf rfl (hunblocked _ c _)
    | @nameless c => exact law_called law h hf rfl (hunblocked _ c _)
    | @taken c => exact law_called law h hf rfl (hunblocked _ c _)

theorem law_again (law : Law timeout spared R) (h : s.context.config.pollTimeout.toValue = timeout)
    {trace : Trace} {next : Listener} (ht : s.acceptTurn = .again trace next) :
    R s.token trace next.token := by
  cases step_again ht with
  | idle _ hf => exact law_poll law h (by simp [hf])
  | again _ hf ha =>
    cases ha with
    | retried => exact law_called law h hf rfl (law.nothing _)

theorem law_accept (law : Law timeout spared R) (s : Listener)
    (h : s.context.config.pollTimeout.toValue = timeout)
    (hs : ∀ f, s.accept.result = .error f → spared f) :
    R s.token s.accept.trace s.accept.state.token := by
  refine loop_induction (fun s ran => s.context.config.pollTimeout.toValue = timeout →
    (∀ f, ran.result = .error f → spared f) → R s.token ran.trace ran.state.token) ?_ ?_ s h hs
  · intro s ran ht h hs
    exact law_done law h ht hs
  · intro s trace next ran ht ih h hs
    exact law.join (law_again law h ht) (ih (by rw [(quiet_again ht).context, h]) hs)

theorem law_serve (law : Law timeout spared R)
    (h : s.context.config.pollTimeout.toValue = timeout) (conn : Endpoint (List UInt8))
    (shown : String) (hs : ∀ f, (s.serve conn shown).result = .error f → spared f) :
    R s.token (s.serve conn shown).trace (s.serve conn shown).state.token := by
  have hverdict : (verdict (s.session conn).result shown).Remarks := by
    unfold verdict
    split
    · exact remarks_speak _ (by simp) _
    · exact Trace.remarks_nil
  have hclosed : Trace.Remarks [.closed conn.id] := remarks_singleton.2 rfl
  rw [serve_eq] at hs ⊢
  have hrun := Session.law_run law ⟨s.token, conn, s.context⟩ h fun f hf => hs f (by
    simp [session, hf, Except.map])
  exact law.join (law.join hrun (law.remarks hverdict _)) (law.remarks hclosed _)

theorem law_round (law : Law timeout spared R)
    (h : s.context.config.pollTimeout.toValue = timeout) {ran : Ran Listener Bool}
    (hr : Round s ran) (hs : ∀ f, ran.result = .error f → spared f) :
    R s.token ran.trace ran.state.token := by
  have ha := law_accept law s h
  cases hr with
  | stopped hr => exact ha (by simp [hr])
  | @failed e hr =>
    refine law.join (ha fun f hf => ?_) (law.remarks (remarks_speak _ (by simp) _) _)
    rw [hr, Except.error.injEq] at hf
    exact hf ▸ law.system e
  | faulted hr =>
    refine ha fun f hf => hs f ?_
    rw [hr, Except.error.injEq] at hf
    rw [hf]
  | unshown hr => exact ha (by simp [hr])
  | @served conn peer shown hr _ =>
    have hconfig : s.accept.state.context.config.pollTimeout.toValue = timeout := by
      rw [s.lasting_accept.context.config, h]
    exact law.join (ha (by simp [hr])) (law.join (law.remarks (remarks_console _) _)
      (law_serve law hconfig conn shown hs))

theorem law_service (law : Law timeout spared R) (s : Listener)
    (h : s.context.config.pollTimeout.toValue = timeout)
    (hs : ∀ f, s.service.result = .error f → spared f) :
    R s.token s.service.trace s.service.state.token := by
  refine service_induction (fun s ran => s.context.config.pollTimeout.toValue = timeout →
    (∀ f, ran.result = .error f → spared f) → R s.token ran.trace ran.state.token)
    ?_ ?_ ?_ s h hs
  · intro s _ _ _
    exact law.nothing _
  · intro s _ _ h hs
    exact law_round law h s.rounding hs
  · intro s ran _ hr ih h hs
    exact law.join (law_round law h s.rounding (by simp [hr]))
      (ih (by rw [(lasting_round s.rounding).context.config, h]) hs)

end Listener

end Stream

namespace Messaging.Mailbox

open Trace (remarks_append remarks_speak remarks_console)

variable {timeout : Value} {spared : Fault → Prop} {R : Token → Trace → Token → Prop}
  {s : Mailbox} {item : Item Message}

theorem remarks_report (c : Context) (p : Piece) (shown : String) : (report c p shown).Remarks := by
  have hcut : (cutNote c.room p.flags).Remarks := by
    unfold cutNote
    split
    · exact Trace.remarks_nil
    · exact remarks_speak _ (by simp) _
  have hinfo : (informed p.control).1.Remarks := by
    unfold informed
    split
    · exact Trace.remarks_nil
    · exact remarks_speak _ (by simp) _
  unfold report
  refine remarks_append.2 ⟨remarks_append.2 ⟨remarks_append.2 ⟨remarks_append.2
    ⟨remarks_console _, hcut⟩, hinfo⟩, ?_⟩, remarks_console _⟩
  split
  · split
    · exact remarks_console _
    · exact Trace.remarks_nil
  · exact Trace.remarks_nil

theorem law_echo (law : Law timeout spared R) (s : Mailbox) (item : Item Message) (p : Piece)
    (info? : Option DeliveryInfo) :
    R s.token (s.echo item p info?).trace (s.echo item p info?).state.token := by
  have hnote : ∀ reason t, R t (failureNote reason) t :=
    fun reason t => law.remarks (remarks_speak _ (by simp) _) t
  have hstart : R s.token (Trace.speak .debug .message "Echoing data back") s.token :=
    law.remarks (remarks_speak _ (by simp) _) _
  unfold echo
  split
  · exact hnote _ _
  · simp only
    split
    · exact hstart
    · have hsent := law.join hstart (law.call s.token item .send
        (e := .sentMessage s.endpoint.id p.data ‹_› 0 p.sender (replyFailure s.endpoint.sends))
        rfl)
      rw [← List.append_assoc] at hsent
      refine law.join hsent ?_
      split
      · exact hnote _ _
      · exact law.nothing _

theorem law_handle (law : Law timeout spared R) (s : Mailbox) (item : Item Message) (p : Piece) :
    R s.token (s.handle item p).trace (s.handle item p).state.token := by
  have hh := s.handling item p
  generalize s.handle item p = ran at hh ⊢
  have hreport : ∀ shown, Trace.Remarks (Trace.speak .debug .message
      ("Received " ++ toString p.data.length ++ " bytes") ++ report s.context p shown) :=
    fun shown => remarks_append.2 ⟨remarks_speak _ (by simp) _, remarks_report _ _ _⟩
  cases hh with
  | unshown => exact law.remarks (remarks_speak _ (by simp) _) _
  | reported => exact law.remarks (hreport _) _
  | echoed => exact law.join (law.remarks (hreport _) _) (law_echo law s item p _)

theorem law_receipt_again (law : Law timeout spared R) {trace : Trace} {next : Mailbox}
    (h : Receipt s item (.again trace next)) :
    ∃ e rest, trace = e :: rest ∧ e.isTraffic = true ∧ R s.token rest next.token := by
  cases h with
  | retried => exact ⟨_, [], rfl, rfl, law.nothing _⟩
  | notified => exact ⟨_, _, rfl, rfl, law.remarks (remarks_speak _ (by simp) _) _⟩
  | closed => exact ⟨_, _, rfl, rfl, law.remarks (remarks_console _) _⟩
  | handled => exact ⟨_, _, rfl, rfl, law_handle law (s.taken _) item _⟩

theorem law_receipt_done (law : Law timeout spared R) {ran : Ran Mailbox Bool}
    (h : Receipt s item (.done ran)) :
    ∃ e rest, ran.trace = e :: rest ∧ e.isTraffic = true ∧ R s.token rest ran.state.token := by
  cases h with
  | failed => exact ⟨_, _, rfl, rfl, law.remarks (remarks_speak _ (by simp) _) _⟩
  | stuck => exact ⟨_, [], rfl, rfl, law.nothing _⟩
  | faulted => exact ⟨_, _, rfl, rfl, law_handle law (s.taken _) item _⟩

theorem law_poll (law : Law timeout spared R)
    (h : s.context.config.pollTimeout.toValue = timeout)
    (hf : ∀ f, s.poll.found = .refused f → spared f) :
    R s.token s.poll.trace s.polled.token := by
  subst h
  exact law.wait s.token s.endpoint hf

theorem law_called (law : Law timeout spared R)
    (h : s.context.config.pollTimeout.toValue = timeout) (hf : s.poll.found = .ready item)
    {e : Event} {rest : Trace} {c : Token} (he : e.isTraffic = true)
    (hr : R (s.called item).token rest c) : R s.token (s.approach item ++ e :: rest) c := by
  have hw := law.join (law_poll law h (by simp [hf])) (law.calling s.poll.token item .call he hr)
  rwa [← List.append_assoc] at hw

theorem law_again (law : Law timeout spared R) (h : s.context.config.pollTimeout.toValue = timeout)
    {trace : Trace} {next : Mailbox} (ht : s.turn = .again trace next) :
    R s.token trace next.token := by
  cases step_again ht with
  | idle _ hf => exact law_poll law h (by simp [hf])
  | again _ hf hr =>
    obtain ⟨e, rest, rfl, he, hrest⟩ := law_receipt_again law hr
    exact law_called law h hf he hrest

theorem law_done (law : Law timeout spared R)
    (h : s.context.config.pollTimeout.toValue = timeout) {ran : Ran Mailbox Bool}
    (ht : s.turn = .done ran) (hs : ∀ f, ran.result = .error f → spared f) :
    R s.token ran.trace ran.state.token := by
  cases step_done ht with
  | stopped => exact law.nothing _
  | broken _ hf =>
    exact law.join (law_poll law h (by simp [hf])) (law.remarks (remarks_speak _ (by simp) _) _)
  | @refused f _ hf =>
    refine law_poll law h fun g hg => ?_
    rw [hf, Found.refused.injEq] at hg
    exact hs g (by rw [hg])
  | done _ hf hr =>
    obtain ⟨e, rest, htrace, he, hrest⟩ := law_receipt_done law hr
    rw [Ran.trace_after, htrace]
    exact law_called law h hf he hrest

theorem law_runOnce (law : Law timeout spared R) (s : Mailbox)
    (h : s.context.config.pollTimeout.toValue = timeout)
    (hs : ∀ f, s.runOnce.result = .error f → spared f) :
    R s.token s.runOnce.trace s.runOnce.state.token := by
  refine loop_induction (fun s ran => s.context.config.pollTimeout.toValue = timeout →
    (∀ f, ran.result = .error f → spared f) → R s.token ran.trace ran.state.token) ?_ ?_ s h hs
  · intro s ran ht h hs
    exact law_done law h ht hs
  · intro s trace next ran ht ih h hs
    exact law.join (law_again law h ht) (ih (by rw [(frame_again ht).context.config, h]) hs)

theorem law_service (law : Law timeout spared R) (s : Mailbox)
    (h : s.context.config.pollTimeout.toValue = timeout)
    (hs : ∀ f, s.service.result = .error f → spared f) :
    R s.token s.service.trace s.service.state.token := by
  cases hc : s.token.cancelled with
  | true =>
    rw [s.service_of_cancelled hc]
    exact law.nothing _
  | false =>
    rw [s.service_eq hc] at hs ⊢
    exact law_runOnce law s h hs

end Messaging.Mailbox

theorem Server.law_mainLoop {s : Server} {c : Context} {spared : Fault → Prop}
    {R : Token → Trace → Token → Prop} (law : Law s.config.pollTimeout.toValue spared R)
    (hc : Context.ofConfig s.config = .ok c) (socket : ServerSocket)
    (hs : ∀ f, (s.mainLoop socket c).result = .error f → spared f) :
    R s.token (s.mainLoop socket c).trace (s.mainLoop socket c).state.token := by
  have htimeout : (s.prepared socket c).2.config.pollTimeout.toValue =
      s.config.pollTimeout.toValue := by rw [Server.config_prepared hc]
  unfold mainLoop serve at hs ⊢
  split at hs
  · exact Stream.Listener.law_service law
      ((s.up socket c).listener s.socketId socket (s.prepared socket c).2) htimeout hs
  · exact Messaging.Mailbox.law_service law
      ((s.up socket c).mailbox s.socketId socket (s.prepared socket c).2) htimeout hs

end SctpProbe
