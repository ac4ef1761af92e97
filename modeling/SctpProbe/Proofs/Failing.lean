import SctpProbe.Proofs.Answers.Account
import SctpProbe.Proofs.Blocking
set_option autoImplicit false

namespace SctpProbe

open Network

namespace Network

/-- Whether a server socket cannot be used any more after an event. -/
def Event.isFatal (id : SocketId) : Event → Bool
  | .waited s _ (.failed _) => s == id
  | .acceptFailed s e => s == id && !e.isTransient
  | .receiveMessageFailed s e => s == id && !e.isTransient
  | .unblocked _ (some _) => true
  | _ => false

/-- Something is fatal, and nobody asks to stop after that. -/
def Trace.Fatal (id : SocketId) (t : Trace) : Prop :=
  ∃ before e after, t = before ++ e :: after ∧ e.isFatal id = true ∧ ∀ x ∈ after, x.isStop = false

namespace Trace

variable {id : SocketId} {t u : Trace}

theorem Fatal.prepend (h : Fatal id t) (u : Trace) : Fatal id (u ++ t) := by
  obtain ⟨before, e, after, rfl, he, ha⟩ := h
  exact ⟨u ++ before, e, after, by simp, he, ha⟩

theorem Fatal.append (h : Fatal id t) (hu : ∀ x ∈ u, x.isStop = false) : Fatal id (t ++ u) := by
  obtain ⟨before, e, after, rfl, he, ha⟩ := h
  refine ⟨before, e, after ++ u, by simp, he, ?_⟩
  intro x hx
  rcases List.mem_append.1 hx with hx | hx
  · exact ha x hx
  · exact hu x hx

theorem fatal_singleton {e : Event} (he : e.isFatal id = true) : Fatal id [e] :=
  ⟨[], e, [], rfl, he, by simp⟩

theorem not_stop_speak (level : Log.Level) (speaker : Log.Speaker) (message : String) :
    ∀ x ∈ speak level speaker message, x.isStop = false := by
  simp [speak, Event.isStop]

end Trace

theorem fatal_of_broken {α : Type} {timeout : Value} {t : Token} {e : Endpoint α}
    {err : SystemError}
    (h : (wait timeout t e).found = .broken err) : Trace.Fatal e.id (wait timeout t e).trace := by
  rw [wait_of_broken h]
  exact (Trace.fatal_singleton (by simp [Event.isFatal])).prepend _

end Network

/-- The faults that lie in the timeouts of a server. Without a send timeout it is one if a peer
stays blocked. -/
inductive Context.Lapse (c : Context) (blocked : Prop) (f : Fault) : Prop
  | poll (h : Limit.ofValue c.config.pollTimeout.toValue = .error f)
  | send (he : c.echo.truthy = true) (h : Limit.ofValue c.config.sendTimeout = .error f)
  | stall (he : c.echo.truthy = true) (hn : c.config.sendTimeout = .nothing) (hb : blocked)
    (hf : f = .endless)

theorem Context.Lapse.of_kept {c d : Context} {p q : Prop} {f : Fault} (k : c.Kept d) (hpq : p → q)
    (h : d.Lapse p f) : c.Lapse q f := by
  cases h with
  | poll h =>
    rw [k.config] at h
    exact .poll h
  | send he h =>
    rw [k.config] at h
    rw [k.echo] at he
    exact .send he h
  | stall he hn hb hf =>
    rw [k.config] at hn
    rw [k.echo] at he
    exact .stall he hn (hpq hb) hf

namespace Stream

namespace Session

abbrev Lapse (s : Session) (t : Trace) (f : Fault) : Prop :=
  s.context.Lapse (t.Blocked s.endpoint.id s.endpoint.sends) f

theorem lapse_done {s : Session} {ran : Ran Session Bool} (h : s.turn = .done ran) {f : Fault}
    (hf : ran.result = .error f) : s.Lapse ran.trace f := by
  cases step_done h with
  | stopped hc => simp at hf
  | broken hc hw => simp at hf
  | refused hc hw =>
    simp only [Except.error.injEq] at hf
    subst hf
    exact .poll (wait_of_refused hw).2
  | @done item _ hc hw hr =>
    cases hr with
    | failed hd ht => simp at hf
    | closed hd hn => simp at hf
    | @aborted bytes _ hd hn he hr =>
      simp only [Ran.result_after, Except.error.injEq] at hf
      subst hf
      rcases reply_error hn hr with hl | ⟨hl, hf, hblocked⟩
      · exact .send he hl
      · rw [id_called, sends_called] at hblocked
        exact .stall he hl (hblocked.prepend _) hf

theorem lapse_run (s : Session) : ∀ f, s.run.result = .error f → s.Lapse s.run.trace f := by
  refine loop_induction (fun s ran => ∀ f, ran.result = .error f → s.Lapse ran.trace f) ?_ ?_ s
  · intro s ran h f hf
    exact lapse_done h hf
  · intro s trace next ran h ih f hf
    refine (ih f hf).of_kept (frame_again h).context fun hb => ?_
    rw [(frame_again h).id] at hb
    exact .after (spends_again h) hb

end Session

namespace Listener

/-- A peer whose connection waits behind a listening socket cannot be told. -/
def Untold (f : Fault) (script : List (Item Connection)) : Prop :=
  ∃ i ∈ script, ∃ c, i.delivery = .ok c ∧ Peer.display c.sender = .error f

theorem Untold.of_suffix {f : Fault} {xs ys : List (Item Connection)} (h : Untold f xs)
    (hs : xs <:+ ys) : Untold f ys := by
  obtain ⟨i, hi, c, hd, hp⟩ := h
  exact ⟨i, hs.subset hi, c, hd, hp⟩

theorem display_of_error {v : Value} {f : Fault} (h : Peer.ofSocketAddress v = .error f) :
    Peer.display v = .error f := by
  simp [Peer.display, h, bind, Except.bind]

inductive Refusal (s : Listener) (t : Trace) (f : Fault) : Prop
  | fatal {e : SystemError} (hf : f = .system e) (h : t.Fatal s.endpoint.id)
  | poll (h : Limit.ofValue s.context.config.pollTimeout.toValue = .error f)
  | untold (hf : f = .infiniteNumber) (h : Untold f s.endpoint.script)

theorem refusal_done {s : Listener} {ran : Ran Listener Accepted} (h : s.acceptTurn = .done ran)
    {f : Fault} (hf : ran.result = .error f) : Refusal s ran.trace f := by
  cases step_done h with
  | stopped hc => simp at hf
  | broken hc hw =>
    simp only [Except.error.injEq] at hf
    exact .fatal hf.symm (fatal_of_broken hw)
  | refused hc hw =>
    simp only [Except.error.injEq] at hf
    subst hf
    exact .poll (wait_of_refused hw).2
  | @done item ran hc hw ha =>
    have hi : item ∈ s.endpoint.script := by
      rw [(wait_of_ready hw).2.1]
      exact List.mem_cons_self
    cases ha with
    | @failed e hd ht =>
      simp only [Ran.result_after, Except.error.injEq] at hf
      refine .fatal hf.symm ((Trace.fatal_singleton ?_).prepend _)
      simp [Event.isFatal, ht, called]
    | @blocking c e hd hu =>
      simp only [Ran.result_after, Except.error.injEq] at hf
      refine .fatal hf.symm (Trace.Fatal.prepend ?_ _)
      refine ⟨[.accepted _ _ c.sender], .unblocked _ c.unblocking?, [], rfl, ?_, by simp⟩
      simp [Event.isFatal, hu]
    | @nameless c f hd hu hp =>
      simp only [Ran.result_after, Except.error.injEq] at hf
      subst hf
      exact .untold (Peer.ofSocketAddress_error hp) ⟨item, hi, c, hd, display_of_error hp⟩
    | taken hd hu hp => simp at hf

theorem refusal_accept (s : Listener) :
    ∀ f, s.accept.result = .error f → Refusal s s.accept.trace f := by
  refine loop_induction (fun s ran => ∀ f, ran.result = .error f → Refusal s ran.trace f) ?_ ?_ s
  · intro s ran h f hf
    exact refusal_done h hf
  · intro s trace next ran h ih f hf
    have hq := quiet_again h
    cases ih f hf with
    | fatal he hfat =>
      rw [hq.id] at hfat
      exact .fatal he (hfat.prepend trace)
    | poll hl =>
      rw [hq.context] at hl
      exact .poll hl
    | untold he hu => exact .untold he (hu.of_suffix hq.script)

structure Verdict (s : Listener) (ran : Ran Listener Bool) : Prop where
  failed : ran.result = .ok false → ran.trace.Fatal s.endpoint.id
  faulted : ∀ f, ran.result = .error f →
    s.context.Lapse (s.Blocked ran.trace) f ∨ Untold f s.endpoint.script

theorem verdict_round {s : Listener} {ran : Ran Listener Bool} (h : Round s ran) :
    Verdict s ran := by
  have hrefuse := s.refusal_accept
  have hlast := s.lasting_accept
  cases h with
  | stopped hr => exact ⟨by simp, by simp⟩
  | @failed e hr =>
    refine ⟨fun _ => ?_, by simp⟩
    cases hrefuse _ hr with
    | fatal he hfat => exact hfat.append (Trace.not_stop_speak _ _ _)
    | poll hl =>
      rw [Limit.ofValue_toValue] at hl
      have := Limit.ofNumber_error hl
      simp at this
    | untold he hu => simp at he
  | @faulted f hr hn =>
    refine ⟨by simp, fun f' hf => ?_⟩
    simp only [Except.error.injEq] at hf
    subst hf
    cases hrefuse _ hr with
    | fatal he hfat => exact absurd he (hn _)
    | poll hl => exact .inl (.poll hl)
    | untold he hu => exact .inr hu
  | @unshown conn peer f hr hp =>
    refine ⟨by simp, fun f' hf => .inr ?_⟩
    simp only [Except.error.injEq] at hf
    subst hf
    have ha := s.accepting
    generalize s.accept = accepted at ha hr
    cases ha with
    | without q hw => exact absurd hr (hw _)
    | @connected trace last item c q hi hd =>
      obtain ⟨-, -, hs⟩ := of_handover_ok hr
      refine ⟨item, hi, c, hd, ?_⟩
      simpa [Peer.display, hs, bind, Except.bind] using hp
  | @served conn peer shown hr hp =>
    have hs := Session.lapse_run ⟨s.accept.state.token, conn, s.accept.state.context⟩
    have hres : ((s.accept.state.serve conn shown).result) =
        (s.accept.state.session conn).result.map fun _ => true := by
      rw [serve_eq]
    refine ⟨fun hf => ?_, fun f hf => .inl ?_⟩
    · simp only [Ran.result_after, hres] at hf
      cases hsr : (s.accept.state.session conn).result <;> simp [hsr, Except.map] at hf
    · simp only [Ran.result_after, hres] at hf
      cases hsr : (s.accept.state.session conn).result with
      | ok b => simp [hsr, Except.map] at hf
      | error f' =>
        simp only [hsr, Except.map, Except.error.injEq] at hf
        subst hf
        exact (hs _ hsr).of_kept hlast.context (blocked_visit hr shown)

theorem verdict_service (s : Listener) : Verdict s s.service := by
  refine service_induction Verdict ?_ ?_ ?_ s
  · intro s h
    exact ⟨by simp, by simp⟩
  · intro s h hr
    exact verdict_round s.rounding
  · intro s ran h hr ih
    have hl := lasting_round s.rounding
    refine ⟨fun hf => ?_, fun f hf => ?_⟩
    · have hfat := ih.failed hf
      rw [hl.id] at hfat
      exact hfat.prepend _
    · rcases ih.faulted f hf with h | h
      · exact .inl (h.of_kept hl.context (.after s.rounding hr))
      · exact .inr (h.of_suffix hl.script)

end Listener

end Stream

namespace Messaging.Mailbox

def Untold (f : Fault) (script : List (Item Message)) : Prop :=
  ∃ i ∈ script, ∃ m, i.payload? = some m ∧ Peer.display m.sender = .error f

theorem handle_error {s : Mailbox} {item : Item Message} {p : Piece} {f : Fault}
    (h : (s.handle item p).result = .error f) : Peer.display p.sender = .error f := by
  have hh := s.handling item p
  generalize s.handle item p = ran at hh h
  cases hh with
  | @unshown f' hs =>
    simp only [Except.error.injEq] at h
    subst h
    exact hs
  | reported hs he => simp at h
  | echoed hs he =>
    simp only [Ran.result_after] at h
    unfold echo at h
    split at h
    · simp at h
    · simp [p.reply_carried] at h

structure Verdict (s : Mailbox) (ran : Ran Mailbox Bool) : Prop where
  failed : ran.result = .ok false → ran.trace.Fatal s.endpoint.id
  faulted : ∀ f, ran.result = .error f →
    Limit.ofValue s.context.config.pollTimeout.toValue = .error f ∨ Untold f s.endpoint.script

theorem verdict_done {s : Mailbox} {ran : Ran Mailbox Bool} (hroom : 0 < s.context.room)
    (h : s.turn = .done ran) : Verdict s ran := by
  cases step_done h with
  | stopped hc => exact ⟨by simp, by simp⟩
  | broken hc hw => exact ⟨fun _ => (fatal_of_broken hw).append
      (Trace.not_stop_speak _ _ _), by simp⟩
  | refused hc hw =>
    refine ⟨by simp, fun f hf => .inl ?_⟩
    simp only [Except.error.injEq] at hf
    subst hf
    exact (wait_of_refused hw).2
  | @done item ran hc hw hr =>
    have hs := (wait_of_ready hw).2.1
    cases hr with
    | @failed e hd ht =>
      refine ⟨fun _ => ?_, by simp⟩
      refine ((Trace.fatal_singleton ?_).append (Trace.not_stop_speak _ _ _)).prepend _
      simp [Event.isFatal, ht, called]
    | stuck hd hz hm => exact absurd (show s.context.room = 0 from hz) (by omega)
    | @faulted m f hd hn hc hr =>
      refine ⟨by simp, fun f' hf => .inr ?_⟩
      simp only [Ran.result_after, Except.error.injEq] at hf
      subst hf
      rw [hs]
      exact ⟨item, List.mem_cons_self, m, Item.payload_of_delivery hd, handle_error hr⟩

theorem untold_again {s next : Mailbox} {trace : Trace} (h : s.turn = .again trace next) {f : Fault}
    (hu : Untold f next.endpoint.script) : Untold f s.endpoint.script := by
  refine Classical.byContradiction fun hn => ?_
  obtain ⟨i, hi, m, hm, hp⟩ := hu
  refine items_again (P := fun i => ∀ m, i.payload? = some m → Peer.display m.sender ≠ .error f)
    (fun i m data hi hm _ n hd => ?_) h (fun i hi m hm hd => hn ⟨i, hi, m, hm, hd⟩) i hi m hm hp
  simp only [Item.delivering, Option.some.injEq] at hd
  subst hd
  exact hi m hm

theorem verdict_runOnce (s : Mailbox) : 0 < s.context.room → Verdict s s.runOnce := by
  refine loop_induction (fun s ran => 0 < s.context.room → Verdict s ran) ?_ ?_ s
  · intro s ran h hroom
    exact verdict_done hroom h
  · intro s trace next ran h ih hroom
    have hframe := frame_again h
    have hv := ih (by rw [hframe.context.room]; exact hroom)
    refine ⟨fun hf => ?_, fun f hf => ?_⟩
    · have hfat := hv.failed hf
      rw [hframe.id] at hfat
      exact hfat.prepend trace
    · rcases hv.faulted f hf with hl | hu
      · rw [hframe.context.config] at hl
        exact .inl hl
      · exact .inr (untold_again h hu)

theorem verdict_service (s : Mailbox) (hroom : 0 < s.context.room) : Verdict s s.service := by
  cases h : s.token.cancelled with
  | true =>
    rw [s.service_of_cancelled h]
    exact ⟨by simp, by simp⟩
  | false =>
    rw [s.service_eq h]
    exact s.verdict_runOnce hroom

end Messaging.Mailbox

end SctpProbe
