import SctpProbe.Proofs.Frame
import SctpProbe.Proofs.Turns.Listener
set_option autoImplicit false

namespace SctpProbe.Stream.Listener

open Network
open Trace (onlyOn_append onlyOn_singleton onlyOn_speak onlyOn_console)

@[simp] theorem id_polled (s : Listener) : s.polled.endpoint.id = s.endpoint.id := by
  simp [polled, poll]

@[simp] theorem script_polled (s : Listener) :
    s.polled.endpoint.script = s.endpoint.script.tail := by
  simp [polled, poll]

theorem onlyOn_poll (s : Listener) : Trace.OnlyOn s.endpoint.id s.poll.trace := onlyOn_wait _ _ _

theorem onlyOn_approach (s : Listener) (item : Item Connection) :
    Trace.OnlyOn s.endpoint.id (s.approach item) :=
  onlyOn_append.2 ⟨onlyOn_append.2 ⟨s.onlyOn_poll, onlyOn_speak _ _ _⟩,
    s.poll.token.onlyOn_strike item .call _⟩

/-- What accepting leaves alone as long as no connection arrives. -/
structure Quiet (s : Listener) (trace : Trace) (next : Listener) : Prop where
  trace : trace.OnlyOn s.endpoint.id
  id : next.endpoint.id = s.endpoint.id
  script : next.endpoint.script <:+ s.endpoint.script
  context : next.context = s.context
  connections : next.connections = s.connections

theorem Quiet.refl (s : Listener) : Quiet s [] s :=
  ⟨Trace.onlyOn_nil, rfl, List.suffix_refl _, rfl, rfl⟩

theorem Quiet.trans {s mid last : Listener} {t u : Trace} (h : Quiet s t mid)
    (k : Quiet mid u last) :
    Quiet s (t ++ u) last := by
  have hu := k.trace
  rw [h.id] at hu
  exact ⟨onlyOn_append.2 ⟨h.trace, hu⟩, k.id.trans h.id, k.script.trans h.script,
    k.context.trans h.context, k.connections.trans h.connections⟩

theorem quiet_polled (s : Listener) : Quiet s s.poll.trace s.polled := by
  refine ⟨s.onlyOn_poll, s.id_polled, ?_, rfl, rfl⟩
  rw [script_polled]
  exact List.tail_suffix _

theorem quiet_called (s : Listener) (item : Item Connection) :
    Quiet s (s.approach item) (s.called item) :=
  ⟨s.onlyOn_approach item, s.id_polled, s.quiet_polled.script, rfl, rfl⟩

theorem quiet_failure (s : Listener) (e : SystemError) :
    Quiet s [.acceptFailed s.endpoint.id e] s := by
  refine ⟨?_, rfl, List.suffix_refl _, rfl, rfl⟩
  simp [onlyOn_singleton, Event.onlyOn]

theorem quiet_again {s next : Listener} {trace : Trace} (h : s.acceptTurn = .again trace next) :
    Quiet s trace next := by
  cases step_again h with
  | idle h hf => exact s.quiet_polled
  | @again item rest _ h hf ha =>
    have hq := s.quiet_called item
    cases ha with
    | retried hd ht => exact hq.trans (quiet_failure _ _)

def handover (s : Listener) (c : Connection) : Except Fault Accepted :=
  match c.unblocking? with
  | some e => .error (.system e)
  | none => (Peer.ofSocketAddress c.sender).map fun peer => some (s.fresh c, peer)

theorem of_handover_ok {s : Listener} {c : Connection} {conn : Endpoint (List UInt8)}
    {peer : Option Peer} (h : s.handover c = .ok (some (conn, peer))) :
    c.unblocking? = none ∧ conn = s.fresh c ∧ Peer.ofSocketAddress c.sender = .ok peer := by
  unfold handover at h
  split at h
  · simp at h
  · next hu =>
    cases hp : Peer.ofSocketAddress c.sender with
    | error f => simp [hp, Except.map] at h
    | ok peer' =>
      simp only [hp, Except.map, Except.ok.injEq, Option.some.injEq, Prod.mk.injEq] at h
      obtain ⟨rfl, rfl⟩ := h
      exact ⟨hu, rfl, rfl⟩

inductive Accepting (s : Listener) : Ran Listener Accepted → Prop
  | without {trace : Trace} {last : Listener} {result : Except Fault Accepted}
    (q : Quiet s trace last) (h : ∀ a, result ≠ .ok (some a)) : Accepting s ⟨trace, last, result⟩
  | connected {trace : Trace} {last : Listener} {item : Item Connection} {c : Connection}
    (q : Quiet s trace last) (hi : item ∈ s.endpoint.script) (hd : item.delivery = .ok c) :
    Accepting s ⟨trace ++ last.arrival c, last.adopted c, last.handover c⟩

theorem Accepting.after {s mid : Listener} {trace : Trace} {ran : Ran Listener Accepted}
    (q : Quiet s trace mid) (h : Accepting mid ran) : Accepting s (ran.after trace) := by
  cases h with
  | without q' h => exact .without (q.trans q') h
  | @connected rest last item c q' hi hd =>
    have ha := Accepting.connected (q.trans q') (q.script.subset hi) hd
    simpa [Ran.after] using ha

theorem accepting_done {s : Listener} {ran : Ran Listener Accepted} (h : s.acceptTurn = .done ran) :
    Accepting s ran := by
  cases step_done h with
  | stopped h => exact .without (.refl s) (by simp)
  | broken h hf => exact .without s.quiet_polled (by simp)
  | refused h hf => exact .without s.quiet_polled (by simp)
  | @done item ran h hf ha =>
    have hq := s.quiet_called item
    have hi : item ∈ s.endpoint.script := by
      rw [(wait_of_ready hf).2.1]
      exact List.mem_cons_self
    cases ha with
    | @failed e hd ht =>
      exact Accepting.without (hq.trans (quiet_failure _ e)) (by simp)
    | @blocking c e hd hu =>
      have ha := Accepting.connected hq hi hd
      simpa [handover, hu, Ran.after] using ha
    | @nameless c f hd hu hp =>
      have ha := Accepting.connected hq hi hd
      simpa [handover, hu, hp, Except.map, Ran.after] using ha
    | @taken c peer hd hu hp =>
      have ha := Accepting.connected hq hi hd
      simpa [handover, hu, hp, Except.map, Ran.after] using ha

theorem accepting (s : Listener) : Accepting s s.accept := by
  refine loop_induction Accepting ?_ ?_ s
  · intro s ran h
    exact accepting_done h
  · intro s trace next ran h ih
    exact ih.after (quiet_again h)

/-- What servicing leaves alone. -/
structure Lasting (s next : Listener) : Prop where
  id : next.endpoint.id = s.endpoint.id
  script : next.endpoint.script <:+ s.endpoint.script
  context : s.context.Kept next.context

theorem Lasting.refl (s : Listener) : Lasting s s := ⟨rfl, List.suffix_refl _, .refl _⟩

theorem Lasting.trans {s mid last : Listener} (h : Lasting s mid) (k : Lasting mid last) :
    Lasting s last :=
  ⟨k.id.trans h.id, k.script.trans h.script, h.context.trans k.context⟩

theorem Quiet.lasting {s next : Listener} {trace : Trace} (q : Quiet s trace next) :
    Lasting s next :=
  ⟨q.id, q.script, q.context ▸ .refl _⟩

theorem lasting_accept (s : Listener) : Lasting s s.accept.state := by
  have ha := s.accepting
  generalize s.accept = ran at ha ⊢
  cases ha with
  | without q h => exact q.lasting
  | connected q hi hd => exact ⟨q.lasting.id, q.lasting.script, q.lasting.context⟩

theorem lasting_served (s : Listener) (conn : Endpoint (List UInt8)) : Lasting s (s.served conn) :=
  ⟨rfl, List.suffix_refl _, (Session.frame_run ⟨s.token, conn, s.context⟩).context⟩

theorem lasting_round {s : Listener} {ran : Ran Listener Bool} (h : Round s ran) :
    Lasting s ran.state := by
  have ha := s.lasting_accept
  cases h with
  | stopped hr => exact ha
  | failed hr => exact ha
  | faulted hr hf => exact ha
  | unshown hr hp => exact ha
  | @served conn peer shown hr hp =>
    have hs := lasting_served s.accept.state conn
    simp only [Ran.state_after, serve_eq]
    exact ha.trans hs

end SctpProbe.Stream.Listener
