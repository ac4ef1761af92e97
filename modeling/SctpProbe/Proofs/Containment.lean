import SctpProbe.Proofs.Passing
import SctpProbe.Proofs.Stopping
set_option autoImplicit false

/-!
Which failures a run is to blame for. The status of a run is one just when its own socket has
failed, or a connection before its session begins; nothing is waited for or taken in after that
(`Trace.Fails`). What fails in a session ends that session at most, and the server goes on with its
own socket (`Trace.Resumes`).
-/

namespace SctpProbe

open Network

namespace Network.Trace

/-- A trace in which nothing is fatal. -/
def Spared (id : SocketId) (t : Trace) : Prop := ∀ e ∈ t, e.isFatal id = false

/-- Just one event is fatal, and nothing is waited for or taken in after it. -/
def Fails (id : SocketId) (t : Trace) : Prop :=
  ∃ (before : Trace) (e : Event) (after : Trace), t = before ++ e :: after ∧
    e.isFatal id = true ∧ before.Spared id ∧ after.Spared id ∧ after.Calm

variable {id : SocketId} {t u : Trace}

theorem spared_nil : Spared id [] := by simp [Spared]

theorem spared_append : Spared id (t ++ u) ↔ Spared id t ∧ Spared id u := List.forall_mem_append

theorem spared_speak (level : Log.Level) (speaker : Log.Speaker) (message : String) :
    Spared id (speak level speaker message) := by
  simp [Spared, speak, Event.isFatal]

theorem spared_stops (h : ∀ e ∈ t, e.isStop = true) : Spared id t := by
  intro e he
  have h0 := h e he
  cases e <;> simp_all [Event.isStop, Event.isFatal]

theorem spared_of_onlyOn {q : SocketId} (h : t.OnlyOn q) (hq : q ≠ id) : Spared id t := by
  intro e he
  have h0 := h e he
  cases e with
  | waited s timeout o => cases o <;> simp_all [Event.onlyOn, Event.isFatal]
  | unblocked s failure? => simp [Event.onlyOn] at h0
  | _ => simp_all [Event.onlyOn, Event.isFatal]

theorem spared_of_calm {q : SocketId} (h : t.OnlyOn q) (hc : t.Calm) : Spared id t := by
  intro e he
  have h0 := h e he
  have h1 := hc e he
  cases e <;> simp_all [Event.onlyOn, Event.role, Role.calm, Event.isFatal]

theorem not_closed_of_onlyOn {q p : SocketId} (h : t.OnlyOn q) : .closed p ∉ t := by
  intro hm
  have h0 := h _ hm
  simp [Event.onlyOn] at h0

theorem Fails.prepend (h : t.Fails id) (hu : u.Spared id) : Fails id (u ++ t) := by
  obtain ⟨before, e, after, rfl, he, hb, ha⟩ := h
  exact ⟨u ++ before, e, after, by simp, he, spared_append.2 ⟨hu, hb⟩, ha⟩

theorem Fails.append (h : t.Fails id) (hs : u.Spared id) (hc : u.Calm) : Fails id (t ++ u) := by
  obtain ⟨before, e, after, rfl, he, hb, ha, hcalm⟩ := h
  exact ⟨before, e, after ++ u, by simp, he, hb, spared_append.2 ⟨ha, hs⟩,
    calm_append.2 ⟨hcalm, hc⟩⟩

theorem fails_singleton {e : Event} (he : e.isFatal id = true) : Fails id [e] :=
  ⟨[], e, [], rfl, he, spared_nil, spared_nil, calm_nil⟩

theorem Fails.once (h : t.Fails id) {before after : Trace} {e : Event}
    (ht : t = before ++ e :: after) (he : e.isFatal id = true) :
    before.Spared id ∧ after.Spared id ∧ after.Calm := by
  obtain ⟨b, x, a, hx, -, hb, ha⟩ := h
  rw [hx] at ht
  rcases split_append ht with ⟨mid, rfl, -⟩ | ⟨mid, rfl, hmid⟩
  · exact absurd (hb e (by simp)) (by simp [he])
  · cases mid with
    | nil =>
      obtain ⟨-, rfl⟩ := List.cons.inj hmid
      exact ⟨by simpa using hb, ha⟩
    | cons y rest =>
      obtain ⟨-, rfl⟩ := List.cons.inj hmid
      exact absurd (ha.1 e (by simp)) (by simp [he])

/-- What a part of a run shows that may have failed. -/
structure Fate (id : SocketId) (failed : Prop) (t : Trace) : Prop where
  fails : failed → t.Fails id
  spared : ¬failed → t.Spared id

variable {failed : Prop}

theorem Fate.of_spared (h : t.Spared id) (hf : ¬failed) : Fate id failed t :=
  ⟨fun h0 => absurd h0 hf, fun _ => h⟩

theorem Fate.of_fails (h : t.Fails id) (hf : failed) : Fate id failed t :=
  ⟨fun _ => h, fun h0 => absurd hf h0⟩

theorem Fate.prepend (h : Fate id failed t) (hu : u.Spared id) : Fate id failed (u ++ t) :=
  ⟨fun hf => (h.fails hf).prepend hu, fun hf => spared_append.2 ⟨hu, h.spared hf⟩⟩

theorem Fate.append (h : Fate id failed t) (hs : u.Spared id) (hc : u.Calm) :
    Fate id failed (t ++ u) :=
  ⟨fun hf => (h.fails hf).append hs hc, fun hf => spared_append.2 ⟨h.spared hf, hs⟩⟩

theorem Fate.iff (h : Fate id failed t) : failed ↔ ∃ e ∈ t, e.isFatal id = true := by
  refine ⟨fun hf => ?_, fun ⟨e, he, hfatal⟩ => Classical.byContradiction fun hf => ?_⟩
  · obtain ⟨before, e, after, rfl, he, -⟩ := h.fails hf
    exact ⟨e, by simp, he⟩
  · simpa [hfatal] using h.spared hf e he

/-- The socket is waited for, and the call follows if it is ready; nothing comes before that but
requests to stop. -/
def Resumes (id : SocketId) (t : Trace) : Prop :=
  ∃ (stops : Trace) (timeout : Value) (o : Outcome) (rest : Trace),
    t = stops ++ .waited id timeout o :: rest ∧ (∀ x ∈ stops, x.isStop = true) ∧
    (o = .ready → ∃ (gap : Trace) (e : Event) (later : Trace),
      rest = gap ++ e :: later ∧ gap.Gap ∧ e.role = .call id)

theorem Resumes.append (h : t.Resumes id) (u : Trace) : Resumes id (t ++ u) := by
  obtain ⟨stops, timeout, o, rest, rfl, hs, hr⟩ := h
  refine ⟨stops, timeout, o, rest ++ u, by simp, hs, fun ho => ?_⟩
  obtain ⟨gap, e, later, rfl, hg, he⟩ := hr ho
  exact ⟨gap, e, later ++ u, by simp, hg, he⟩

end Network.Trace

namespace Network

variable {α : Type} {timeout : Value} {t : Token} {e : Endpoint α}

theorem fails_of_broken {err : SystemError} (h : (wait timeout t e).found = .broken err) :
    Trace.Fails e.id (wait timeout t e).trace := by
  rw [wait_of_broken h]
  refine Trace.Fails.prepend (Trace.fails_singleton ?_) (Trace.spared_stops (e.isStop_beginning t))
  simp [Event.isFatal]

theorem mem_wait (h : ∀ err, (wait timeout t e).found ≠ .broken err) {x : Event}
    (hx : x ∈ (wait timeout t e).trace) :
    x.isStop = true ∨ ∃ o, x = .waited e.id timeout o ∧ ∀ err, o ≠ .failed err := by
  rcases wait_cases timeout t e with ⟨f, -, ht, -⟩ | ⟨o, -, ht, hf⟩
  · rw [ht] at hx
    exact .inl (e.isStop_beginning t x hx)
  · rw [ht] at hx
    rcases List.mem_append.1 hx with hx | hx
    · exact .inl (e.isStop_beginning t x hx)
    · refine .inr ⟨o, List.mem_singleton.1 hx, ?_⟩
      rintro err rfl
      exact h err hf

theorem spared_wait (id : SocketId) (h : ∀ err, (wait timeout t e).found ≠ .broken err) :
    Trace.Spared id (wait timeout t e).trace := by
  intro x hx
  rcases mem_wait h hx with hs | ⟨o, rfl, ho⟩
  · cases x <;> simp_all [Event.isStop, Event.isFatal]
  · cases o <;> simp_all [Event.isFatal]

theorem Token.spared_strike (t : Token) (i : Item α) (m : Moment) (id : SocketId) :
    Trace.Spared id (t.strike i m).1 :=
  Trace.spared_stops (t.isStop_strike i m)

theorem resumes_of_waited {o : Outcome} (ho : o ≠ .ready)
    (h : (wait timeout t e).trace = (e.beginning t).1 ++ [.waited e.id timeout o]) (rest : Trace) :
    Trace.Resumes e.id ((wait timeout t e).trace ++ rest) :=
  ⟨(e.beginning t).1, timeout, o, rest, by simp [h], e.isStop_beginning t, fun h0 => absurd h0 ho⟩

theorem resumes_of_idle (h : (wait timeout t e).found = .idle) (rest : Trace) :
    Trace.Resumes e.id ((wait timeout t e).trace ++ rest) := by
  obtain ⟨o, ht, ho⟩ := wait_of_idle h
  exact resumes_of_waited (by rcases ho with rfl | rfl <;> simp) ht rest

theorem resumes_of_broken {err : SystemError} (h : (wait timeout t e).found = .broken err) :
    Trace.Resumes e.id (wait timeout t e).trace := by
  simpa using resumes_of_waited (by simp) (wait_of_broken h) []

theorem resumes_of_ready {i : Item α} (h : (wait timeout t e).found = .ready i) {gap later : Trace}
    {call : Event} (hg : gap.Gap) (hc : call.role = .call e.id) :
    Trace.Resumes e.id ((wait timeout t e).trace ++ (gap ++ call :: later)) :=
  ⟨(e.beginning t).1, timeout, .ready, gap ++ call :: later, by simp [(wait_of_ready h).1],
    e.isStop_beginning t, fun _ => ⟨gap, call, later, rfl, hg, hc⟩⟩

/-- Whether a session is over with an event because its connection has failed. -/
def Event.breaks (id : SocketId) : Event → Bool
  | .waited s _ (.failed _) => s == id
  | .receiveFailed s e => s == id && !e.isTransient
  | _ => false

def Trace.Unbroken (id : SocketId) (t : Trace) : Prop := ∀ e ∈ t, e.breaks id = false

namespace Trace

variable {id : SocketId} {u v : Trace}

theorem unbroken_append : Unbroken id (u ++ v) ↔ Unbroken id u ∧ Unbroken id v :=
  List.forall_mem_append

theorem unbroken_of_calm (h : u.Calm) : Unbroken id u := by
  intro e he
  have h0 := h e he
  cases e <;> simp_all [Event.role, Role.calm, Event.breaks]

end Trace

theorem unbroken_wait (id : SocketId) (h : ∀ err, (wait timeout t e).found ≠ .broken err) :
    Trace.Unbroken id (wait timeout t e).trace := by
  intro x hx
  rcases mem_wait h hx with hs | ⟨o, rfl, ho⟩
  · cases x <;> simp_all [Event.isStop, Event.breaks]
  · cases o <;> simp_all [Event.breaks]

end Network

theorem Context.Lapse.ne_system {c : Context} {p : Prop} {f : Fault} (h : c.Lapse p f)
    (e : SystemError) : f ≠ .system e := by
  rintro rfl
  cases h with
  | poll h => exact Limit.ofValue_ne_system _ e h
  | send _ h => exact Limit.ofValue_ne_system _ e h
  | stall _ _ _ hf => simp at hf

/-- How a part of a run goes on that nobody has asked to stop: with its socket, or not at all
because of a fault other than a failure of the system. -/
inductive Onward (id : SocketId) {α : Type} (t : Trace) (result : Except Fault α) : Prop
  | resumes (h : t.Resumes id)
  | lapses {f : Fault} (hf : result = .error f) (hs : ∀ e, f ≠ .system e) (hc : t.Calm)

namespace Stream

open Trace (calm_append calm_nil calm_speak calm_stops unbroken_append unbroken_of_calm)

namespace Session

theorem unbroken_report (s : Session) (bytes : List UInt8) :
    Trace.Unbroken s.endpoint.id (s.report bytes) := by
  have hs : Trace.Still (Trace.speak .info .stream ("Received " ++
      toString (s.chunk bytes).length ++ " bytes") ++
      console (HexDump.text "Received data" HexDump.usualWidth (s.chunk bytes))) :=
    Trace.still_append.2 ⟨Trace.still_speak _ _ _, Trace.still_console _⟩
  have hr : Trace.Unbroken s.endpoint.id
      [.received s.endpoint.id s.context.room (s.chunk bytes).length] := by
    simp [Trace.Unbroken, Event.breaks]
  have h := unbroken_append.2 ⟨hr, unbroken_of_calm hs.calm⟩
  rwa [← List.append_assoc] at h

theorem unbroken_approach {s : Session} {item : Item (List UInt8)}
    (h : s.poll.found = .ready item) : Trace.Unbroken s.endpoint.id (s.approach item) :=
  unbroken_append.2 ⟨unbroken_wait _ (by simp [show wait _ _ _ = s.poll from rfl, h]),
    unbroken_of_calm (calm_stops (s.poll.token.isStop_strike item .call))⟩

theorem unbroken_again {s next : Session} {trace : Trace} (h : s.turn = .again trace next) :
    trace.Unbroken s.endpoint.id := by
  cases step_again h with
  | idle _ hf => exact unbroken_wait _ (by simp [show wait _ _ _ = s.poll from rfl, hf])
  | @again item _ _ _ hf hr =>
    refine unbroken_append.2 ⟨unbroken_approach hf, ?_⟩
    rw [← s.id_called item]
    cases hr with
    | retried _ ht => simp [Trace.Unbroken, Event.breaks, ht]
    | dumped => exact unbroken_report _ _
    | echoed =>
      exact unbroken_append.2 ⟨unbroken_report _ _, unbroken_of_calm (calm_echo _ _ _ _ _ _)⟩

theorem breaks_done {s : Session} {ran : Ran Session Bool} (h : s.turn = .done ran) :
    ran.result = .ok false ↔ ∃ e ∈ ran.trace, e.breaks s.endpoint.id = true := by
  have hnot : ∀ {r : Except Fault Bool} {t : Trace}, r ≠ .ok false → t.Unbroken s.endpoint.id →
      (r = .ok false ↔ ∃ e ∈ t, e.breaks s.endpoint.id = true) := fun hr ht =>
    ⟨fun h => absurd h hr, fun ⟨e, he, hb⟩ => absurd (ht e he) (by simp [hb])⟩
  cases step_done h with
  | stopped => exact hnot (by simp) (by simp [Trace.Unbroken])
  | @broken e _ hf =>
    have hw : (Event.waited s.endpoint.id s.context.config.pollTimeout.toValue
        (.failed e)) ∈ s.poll.trace := by
      rw [show s.poll = wait _ _ _ from rfl, wait_of_broken hf]
      simp
    exact ⟨fun _ => ⟨_, List.mem_append_left _ hw, by simp [Event.breaks]⟩, fun _ => rfl⟩
  | refused _ hf =>
    exact hnot (by simp) (unbroken_wait _ (by simp [show wait _ _ _ = s.poll from rfl, hf]))
  | @done item ran _ hf hr =>
    have hid := s.id_called item
    have happroach := unbroken_approach hf
    rw [Ran.trace_after, Ran.result_after]
    cases hr with
    | @failed e _ ht =>
      refine ⟨fun _ => ⟨.receiveFailed (s.called item).endpoint.id e, by simp, ?_⟩, fun _ => rfl⟩
      simp [Event.breaks, ht]
    | closed =>
      refine hnot (by simp) (unbroken_append.2 ⟨happroach, unbroken_append.2 ⟨?_, ?_⟩⟩)
      · simp [Trace.Unbroken, Event.breaks]
      · exact unbroken_of_calm (Trace.still_console _).calm
    | @aborted bytes =>
      have hreport := (s.called item).unbroken_report bytes
      rw [hid] at hreport
      exact hnot (by simp) (unbroken_append.2 ⟨happroach, unbroken_append.2 ⟨hreport,
        unbroken_of_calm (calm_echo _ _ _ _ _ _)⟩⟩)

theorem breaks_run (s : Session) :
    s.run.result = .ok false ↔ ∃ e ∈ s.run.trace, e.breaks s.endpoint.id = true := by
  refine loop_induction (fun s ran => ran.result = .ok false ↔
    ∃ e ∈ ran.trace, e.breaks s.endpoint.id = true) ?_ ?_ s
  · intro s ran h
    exact breaks_done h
  · intro s trace next ran h ih
    rw [Ran.result_after, Ran.trace_after, ih, (frame_again h).id]
    constructor
    · rintro ⟨e, he, hb⟩
      exact ⟨e, List.mem_append_right _ he, hb⟩
    · rintro ⟨e, he, hb⟩
      rcases List.mem_append.1 he with he | he
      · exact absurd (unbroken_again h e he) (by simp [hb])
      · exact ⟨e, he, hb⟩

end Session

namespace Listener

open Trace (Spared Fate Resumes spared_append spared_nil spared_speak not_closed_of_onlyOn)

theorem spared_poll {s : Listener} (h : ∀ err, s.poll.found ≠ .broken err) :
    Spared s.endpoint.id s.poll.trace :=
  spared_wait _ h

theorem spared_approach {s : Listener} {item : Item Connection}
    (h : s.poll.found = .ready item) : Spared s.endpoint.id (s.approach item) :=
  spared_append.2 ⟨spared_append.2 ⟨spared_poll (by simp [h]), spared_speak _ _ _⟩,
    s.poll.token.spared_strike item .call _⟩

theorem spared_again {s next : Listener} {trace : Trace} (h : s.acceptTurn = .again trace next) :
    trace.Spared s.endpoint.id := by
  cases step_again h with
  | idle _ hf => exact spared_poll (by simp [hf])
  | @again item _ _ _ hf ha =>
    refine spared_append.2 ⟨spared_approach hf, ?_⟩
    cases ha with
    | retried _ ht => simp [Spared, Event.isFatal, ht]

theorem fate_done {s : Listener} {ran : Ran Listener Accepted} (h : s.acceptTurn = .done ran) :
    Fate s.endpoint.id (∃ e, ran.result = .error (.system e)) ran.trace := by
  cases step_done h with
  | stopped => exact .of_spared spared_nil (by simp)
  | @broken e _ hf => exact .of_fails (fails_of_broken hf) ⟨e, rfl⟩
  | @refused f _ hf =>
    refine .of_spared (spared_poll (by simp [hf])) ?_
    rintro ⟨e, he⟩
    refine Limit.ofValue_ne_system _ e ((wait_of_refused hf).2.trans ?_)
    simpa using he
  | @done item ran _ hf ha =>
    refine Fate.prepend ?_ (spared_approach hf)
    rw [Ran.result_after, ← s.id_polled]
    cases ha with
    | @failed e _ ht =>
      exact .of_fails (Trace.fails_singleton (by simp [Event.isFatal, ht, called])) ⟨e, rfl⟩
    | @blocking c e _ hu =>
      refine .of_fails ⟨[.accepted _ _ c.sender], .unblocked _ c.unblocking?, [], rfl, ?_, ?_,
        spared_nil, Trace.calm_nil⟩ ⟨e, rfl⟩
      · simp [Event.isFatal, hu]
      · simp [Spared, Event.isFatal]
    | nameless _ hu hp =>
      refine .of_spared ?_ (by simp [Peer.ofSocketAddress_error hp])
      simp [Spared, arrival, Event.isFatal, hu]
    | taken _ hu =>
      refine .of_spared ?_ (by simp)
      simp [Spared, arrival, Event.isFatal, hu]

theorem fate_accept (s : Listener) :
    Fate s.endpoint.id (∃ e, s.accept.result = .error (.system e)) s.accept.trace := by
  refine loop_induction (fun s ran =>
    Fate s.endpoint.id (∃ e, ran.result = .error (.system e)) ran.trace) ?_ ?_ s
  · intro s ran h
    exact fate_done h
  · intro s trace next ran h ih
    rw [(quiet_again h).id] at ih
    exact ih.prepend (spared_again h)

theorem spared_serve (s : Listener) {conn : Endpoint (List UInt8)} (shown : String)
    {id : SocketId} (h : conn.id ≠ id) : Spared id (s.serve conn shown).trace := by
  have hrun := (Session.frame_run ⟨s.token, conn, s.context⟩).trace
  have hverdict := onlyOn_verdict conn.id (s.session conn).result shown
  rw [serve_eq]
  refine spared_append.2 ⟨spared_append.2 ⟨Trace.spared_of_onlyOn hrun h,
    Trace.spared_of_onlyOn hverdict h⟩, ?_⟩
  simp [Spared, Event.isFatal]

theorem connection_of_accept {s : Listener} {conn : Endpoint (List UInt8)} {peer : Option Peer}
    (h : s.accept.result = .ok (some (conn, peer))) : ∃ n, conn.id = .connection n := by
  have ha := s.accepting
  generalize s.accept = ran at ha h
  cases ha with
  | without _ hw => exact absurd h (hw _)
  | connected =>
    obtain ⟨-, rfl, -⟩ := of_handover_ok h
    exact ⟨_, rfl⟩

theorem fate_round {s : Listener} {ran : Ran Listener Bool}
    (hid : ∀ n, .connection n ≠ s.endpoint.id) (h : Round s ran) :
    Fate s.endpoint.id (ran.result = .ok false) ran.trace := by
  have ha := s.fate_accept
  cases h with
  | stopped hr => exact .of_spared (ha.spared (by simp [hr])) (by simp)
  | failed hr =>
    exact .of_fails ((ha.fails ⟨_, hr⟩).append (spared_speak _ _ _) (Trace.calm_speak _ _ _)) rfl
  | @faulted f hr hf =>
    refine .of_spared (ha.spared ?_) (by simp)
    rintro ⟨e, he⟩
    rw [hr, Except.error.injEq] at he
    exact hf e he
  | unshown hr => exact .of_spared (ha.spared (by simp [hr])) (by simp)
  | @served conn peer shown hr _ =>
    obtain ⟨n, hn⟩ := connection_of_accept hr
    have hconn : conn.id ≠ s.endpoint.id := hn ▸ hid n
    refine .of_spared (spared_append.2 ⟨ha.spared (by simp [hr]), spared_append.2 ⟨?_,
      s.accept.state.spared_serve shown hconn⟩⟩) ?_
    · exact Trace.spared_of_onlyOn (Trace.onlyOn_console _) hconn
    · rw [Ran.result_after, Ran.result_after, serve_eq]
      cases (s.accept.state.session conn).result <;> simp [Except.map]

theorem fate_service (s : Listener) (hid : ∀ n, .connection n ≠ s.endpoint.id) :
    Fate s.endpoint.id (s.service.result = .ok false) s.service.trace := by
  refine service_induction (fun s ran => (∀ n, .connection n ≠ s.endpoint.id) →
    Fate s.endpoint.id (ran.result = .ok false) ran.trace) ?_ ?_ ?_ s hid
  · intro s _ _
    exact .of_spared spared_nil (by simp)
  · intro s _ _ hid
    exact fate_round hid s.rounding
  · intro s ran _ hr ih hid
    have hkeep := (lasting_round s.rounding).id
    have hrest := ih (by rwa [hkeep])
    rw [hkeep] at hrest
    exact hrest.prepend ((fate_round hid s.rounding).spared (by simp [hr]))

theorem onward_accept (s : Listener) (h : s.token.cancelled = false) :
    Onward s.endpoint.id s.accept.trace s.accept.result := by
  have hcall : ∀ {item : Item Connection}, s.poll.found = .ready item → ∀ {e : Event}
      {rest : Trace}, e.role = .call (s.called item).endpoint.id →
      Resumes s.endpoint.id (s.approach item ++ e :: rest) := by
    intro item hf e rest he
    have hgap : Trace.Gap (Trace.speak .debug .stream "Going to accept()" ++
        (s.poll.token.strike item .call).1) := by
      intro x hx
      rcases List.mem_append.1 hx with hx | hx
      · rw [List.mem_singleton.1 hx]
        rfl
      · simp [Event.role_eq_stop.2 (s.poll.token.isStop_strike item .call x hx), Role.gap]
    simpa [approach, poll] using resumes_of_ready hf hgap (he.trans (by simp [called]))
  have hstep := s.step
  rw [show s.accept = loop acceptTurn remaining shrinks_acceptTurn s from rfl, loop_eq]
  generalize s.acceptTurn = turn at hstep ⊢
  cases hstep with
  | stopped hc => simp [h] at hc
  | broken _ hf => exact .resumes (resumes_of_broken hf)
  | refused _ hf =>
    obtain ⟨ht, hl⟩ := wait_of_refused hf
    refine .lapses rfl (fun e he => Limit.ofValue_ne_system _ e (he ▸ hl)) ?_
    rw [show s.poll = wait _ _ _ from rfl, ht]
    exact Trace.calm_stops (s.endpoint.isStop_beginning s.token)
  | idle _ hf => exact .resumes (resumes_of_idle hf _)
  | again _ hf ha =>
    cases ha with
    | retried =>
      refine .resumes ?_
      rw [Ran.trace_after, List.append_assoc]
      exact hcall hf rfl
  | done _ hf ha =>
    cases ha with
    | failed => exact .resumes (hcall hf rfl)
    | blocking => exact .resumes (hcall hf rfl)
    | nameless => exact .resumes (hcall hf rfl)
    | taken => exact .resumes (hcall hf rfl)

theorem onward_round {s : Listener} {ran : Ran Listener Bool} (hr : Round s ran)
    (h : s.token.cancelled = false) : Onward s.endpoint.id ran.trace ran.result := by
  cases s.onward_accept h with
  | resumes ha =>
    refine .resumes ?_
    cases hr with
    | stopped => exact ha
    | failed => exact ha.append _
    | faulted => exact ha
    | unshown => exact ha
    | served => exact ha.append _
  | @lapses f hf hs hcalm =>
    cases hr with
    | stopped hr => simp [hr] at hf
    | failed hr =>
      rw [hr, Except.error.injEq] at hf
      exact absurd hf.symm (hs _)
    | faulted hr =>
      rw [hr, Except.error.injEq] at hf
      exact .lapses (congrArg Except.error hf) hs hcalm
    | unshown hr => simp [hr] at hf
    | served hr => simp [hr] at hf

theorem not_closed_accept (s : Listener) (q : SocketId) : .closed q ∉ s.accept.trace := by
  have ha := s.accepting
  generalize s.accept = ran at ha ⊢
  cases ha with
  | without hq => exact not_closed_of_onlyOn hq.trace
  | @connected trace last item c hq =>
    intro hm
    rcases List.mem_append.1 hm with hm | hm
    · exact not_closed_of_onlyOn hq.trace hm
    · simp [arrival] at hm

/-- A round closes nothing but the connection that it has served, and that last. -/
theorem closed_round {s : Listener} {ran : Ran Listener Bool} (hr : Round s ran)
    {q : SocketId} {before after : Trace} (ht : ran.trace = before ++ .closed q :: after) :
    after = [] ∧
      (ran.result = .ok true ∨ ∃ f, ran.result = .error f ∧ ∀ e, f ≠ .system e) := by
  have haccept := s.not_closed_accept q
  have hmem : .closed q ∈ ran.trace := by simp [ht]
  cases hr with
  | stopped => exact absurd hmem haccept
  | failed => exact absurd hmem (by simp [haccept, Trace.speak])
  | faulted => exact absurd hmem haccept
  | unshown => exact absurd hmem haccept
  | @served conn peer shown _ _ =>
    have hserve := s.accept.state.serve_eq conn shown
    refine ⟨?_, ?_⟩
    · have hrun : Trace.OnlyOn conn.id (s.accept.state.session conn).trace :=
        (Session.frame_run ⟨s.accept.state.token, conn, s.accept.state.context⟩).trace
      have hsession : .closed q ∉ console ("Connection from " ++ shown) ++
          ((s.accept.state.session conn).trace ++
            verdict (s.accept.state.session conn).result shown) :=
        not_closed_of_onlyOn (Trace.onlyOn_append.2 ⟨Trace.onlyOn_console _,
          Trace.onlyOn_append.2 ⟨hrun, onlyOn_verdict _ _ _⟩⟩)
      rw [Ran.trace_after, Ran.trace_after, hserve, ← List.append_assoc, ← List.append_assoc,
        List.append_assoc s.accept.trace] at ht
      rcases Trace.split_append ht with ⟨a, ha, -⟩ | ⟨b, -, hb⟩
      · have hin : .closed q ∈ s.accept.trace ++ (console ("Connection from " ++ shown) ++
            ((s.accept.state.session conn).trace ++
              verdict (s.accept.state.session conn).result shown)) := by
          rw [ha]
          simp
        rcases List.mem_append.1 hin with hin | hin
        · exact absurd hin haccept
        · exact absurd hin hsession
      · cases b with
        | nil => exact (List.cons.inj hb).2.symm
        | cons x rest => simp at hb
    · rw [Ran.result_after, Ran.result_after, hserve]
      cases hresult : (s.accept.state.session conn).result with
      | ok b => exact .inl rfl
      | error f => exact .inr ⟨f, rfl, (Session.lapse_run _ f hresult).ne_system⟩

/-- Servicing waits for its socket first, and again after every connection that it has closed,
unless somebody asks it to stop or it comes to a fault of its timeouts. -/
structure Persistent (s : Listener) (ran : Ran Listener Bool) : Prop where
  begins : s.token.cancelled = false → Onward s.endpoint.id ran.trace ran.result
  closed : ∀ q (before after : Trace), ran.trace = before ++ .closed q :: after →
    (s.token.cancelled || before.any Event.isStop) = true ∨
      Onward s.endpoint.id after ran.result

theorem persistent_service (s : Listener) : Persistent s s.service := by
  refine service_induction Persistent ?_ ?_ ?_ s
  · intro s h
    exact ⟨by simp [h], by simp⟩
  · intro s _ hr
    refine ⟨onward_round s.rounding, fun q before after ht => .inr ?_⟩
    obtain ⟨rfl, h | ⟨f, hf, hs⟩⟩ := closed_round s.rounding ht
    · exact absurd h hr
    · exact .lapses hf hs Trace.calm_nil
  · intro s ran _ hr ih
    have hlast := lasting_round s.rounding
    have hcancelled := (heeds_round s.rounding).cancelled
    obtain ⟨hbegins, hclosed⟩ := ih
    rw [hlast.id] at hbegins hclosed
    refine ⟨fun h => ?_, fun q before after ht => ?_⟩
    · cases onward_round s.rounding h with
      | resumes h => exact .resumes (h.append _)
      | lapses hf => simp [hr] at hf
    · rcases Trace.split_append ht with ⟨a, ha, rfl⟩ | ⟨b, rfl, hb⟩
      · obtain ⟨rfl, -⟩ := closed_round s.rounding ha
        rw [ha, List.any_append] at hcancelled
        cases hc : s.runOnce.state.token.cancelled with
        | true => exact .inl (by simpa [hc, Event.isStop] using hcancelled)
        | false => exact .inr (hbegins hc)
      · have hrest := hclosed q b after hb
        rw [hcancelled, Bool.or_assoc, ← List.any_append] at hrest
        exact hrest

end Listener

end Stream

namespace Messaging.Mailbox

open Trace (Spared Fate spared_append spared_nil spared_speak calm_append calm_nil calm_speak)

theorem calm_echo (s : Mailbox) (item : Item Message) (p : Piece) (info? : Option DeliveryInfo) :
    (s.echo item p info?).trace.Calm := by
  unfold echo
  split
  · exact calm_speak _ _ _
  · simp only
    split
    · exact calm_speak _ _ _
    · refine calm_append.2 ⟨calm_append.2 ⟨calm_append.2 ⟨calm_speak _ _ _,
        Trace.calm_stops (s.token.isStop_strike item .send)⟩, ?_⟩, ?_⟩
      · simp [Trace.Calm, Event.role, Role.calm]
      · split
        · exact calm_speak _ _ _
        · exact calm_nil

theorem calm_handle (s : Mailbox) (item : Item Message) (p : Piece) :
    (s.handle item p).trace.Calm := by
  have hreport : ∀ shown, Trace.Calm (Trace.speak .debug .message
      ("Received " ++ toString p.data.length ++ " bytes") ++ report s.context p shown) :=
    fun shown => calm_append.2 ⟨calm_speak _ _ _, (still_report _ _ _).calm⟩
  have hh := s.handling item p
  generalize s.handle item p = ran at hh ⊢
  cases hh with
  | unshown => exact calm_speak _ _ _
  | reported => exact hreport _
  | echoed => exact calm_append.2 ⟨hreport _, s.calm_echo item p _⟩

theorem spared_handle (s : Mailbox) (m : Message) (item : Item Message) (id : SocketId) :
    Spared id (s.arrival m ++ ((s.taken m).handle item (s.piece m)).trace) := by
  refine spared_append.2 ⟨by simp [Spared, arrival, Event.isFatal], ?_⟩
  exact Trace.spared_of_calm (frame_handle (s.taken m) item (s.piece m)).trace (calm_handle _ _ _)

theorem spared_poll {s : Mailbox} (h : ∀ err, s.poll.found ≠ .broken err) :
    Spared s.endpoint.id s.poll.trace :=
  spared_wait _ h

theorem spared_approach {s : Mailbox} {item : Item Message} (h : s.poll.found = .ready item) :
    Spared s.endpoint.id (s.approach item) :=
  spared_append.2 ⟨spared_poll (by simp [h]), s.poll.token.spared_strike item .call _⟩

theorem spared_noted (s : Mailbox) (m : Message) {t : Trace} (id : SocketId) (h : Spared id t) :
    Spared id (s.arrival m ++ t) :=
  spared_append.2 ⟨by simp [Spared, arrival, Event.isFatal], h⟩

theorem spared_again {s next : Mailbox} {trace : Trace} (h : s.turn = .again trace next) :
    trace.Spared s.endpoint.id := by
  cases step_again h with
  | idle _ hf => exact spared_poll (by simp [hf])
  | @again item _ _ _ hf hr =>
    refine spared_append.2 ⟨spared_approach hf, ?_⟩
    cases hr with
    | retried _ ht => simp [Spared, Event.isFatal, ht]
    | notified => exact spared_noted _ _ _ (spared_speak _ _ _)
    | closed =>
      exact spared_noted _ _ _ (Trace.spared_of_calm (q := s.endpoint.id)
        (Trace.onlyOn_console _) (Trace.still_console _).calm)
    | handled => exact spared_handle _ _ _ _

theorem fate_done {s : Mailbox} {ran : Ran Mailbox Bool} (h : s.turn = .done ran) :
    Fate s.endpoint.id (ran.result = .ok false) ran.trace := by
  cases step_done h with
  | stopped => exact .of_spared spared_nil (by simp)
  | broken _ hf =>
    exact .of_fails ((fails_of_broken hf).append (spared_speak _ _ _) (calm_speak _ _ _)) rfl
  | refused _ hf => exact .of_spared (spared_poll (by simp [hf])) (by simp)
  | @done item ran _ hf hr =>
    refine Fate.prepend ?_ (spared_approach hf)
    rw [Ran.result_after]
    cases hr with
    | @failed e _ ht =>
      refine .of_fails ((Trace.fails_singleton ?_).append (spared_speak _ _ _)
        (calm_speak _ _ _)) rfl
      simp [Event.isFatal, ht, called]
    | stuck => exact .of_spared (by simp [Spared, arrival, Event.isFatal]) (by simp)
    | faulted => exact .of_spared (spared_handle _ _ _ _) (by simp)

theorem fate_service (s : Mailbox) :
    Fate s.endpoint.id (s.service.result = .ok false) s.service.trace := by
  cases h : s.token.cancelled with
  | true =>
    rw [s.service_of_cancelled h]
    exact .of_spared spared_nil (by simp)
  | false =>
    rw [s.service_eq h]
    refine loop_induction (fun s ran =>
      Fate s.endpoint.id (ran.result = .ok false) ran.trace) ?_ ?_ s
    · intro s ran h
      exact fate_done h
    · intro s trace next ran h ih
      rw [(frame_again h).id] at ih
      exact ih.prepend (spared_again h)

end Messaging.Mailbox

namespace Server

open Trace (Spared Fate spared_append)

theorem fate_mainLoop (s : Server) (socket : ServerSocket) (c : Context) :
    Fate s.socketId ((s.mainLoop socket c).result = .ok false) (s.mainLoop socket c).trace := by
  unfold mainLoop serve
  split
  · exact Stream.Listener.fate_service
      ((s.up socket c).listener s.socketId socket (s.prepared socket c).2) (by
        simp [listener, socketId])
  · exact Messaging.Mailbox.fate_service
      ((s.up socket c).mailbox s.socketId socket (s.prepared socket c).2)

section

variable (s : Server) (around : Surroundings) (socket : ServerSocket) (c : Context)

theorem spared_setup (id : SocketId)
    (h : socket.obstacles.allow around.singleStack = true) :
    Spared id (s.setup around socket).1 := by
  simp only [Obstacles.allow, Bool.and_eq_true, Option.isNone_iff_eq_none] at h
  have hattempts : ∀ a ∈ attempts s.config s.socketId around.singleStack socket.obstacles,
      Spared id a.shows := by
    simp only [attempts, h.2]
    split <;> simp [Spared, Trace.speak, Event.isFatal]
  have htry := forall_tryAll (P := fun e => e.isFatal id = false) hattempts
  have hopened : ∀ failure?, Spared id
      [.opened s.socketId inet6 s.config.mode.socketType sctp failure?] := by
    simp [Spared, Event.isFatal]
  have hm := making s.config s.config.mode.socketType s.socketId around.singleStack
    socket.obstacles
  unfold setup
  generalize setUp _ _ _ _ _ = result at hm ⊢
  cases hm with
  | unmade => exact hopened _
  | failed =>
    exact spared_append.2 ⟨spared_append.2 ⟨hopened _, htry⟩, by simp [Spared, Event.isFatal]⟩
  | made => exact spared_append.2 ⟨hopened _, htry⟩

theorem spared_preface (id : SocketId)
    (h : socket.obstacles.allow around.singleStack = true) :
    Spared id (s.preface around socket c) := by
  have hprepared : Spared id (s.prepared socket c).1 := by
    unfold prepared prepare Messaging.subscribe Messaging.subscription
    repeat' split
    all_goals simp [Spared, Trace.speak, Event.isFatal]
  have hannounced : Spared id (announce s.config.mode around socket).1 := by
    unfold announce
    repeat' split
    all_goals simp [Spared, Event.isFatal]
  have hopening : Spared id s.opening :=
    spared_append.2 ⟨Trace.spared_speak _ _ _, Trace.spared_speak _ _ _⟩
  exact spared_append.2 ⟨spared_append.2 ⟨spared_append.2 ⟨spared_append.2 ⟨hopening,
    s.spared_setup around socket id h⟩, hprepared⟩, Trace.spared_speak _ _ _⟩, hannounced⟩

end

theorem spared_reports (signals : List Int) (id : SocketId) :
    Spared id (signals.flatMap signalReport) := by
  intro e he
  obtain ⟨n, -, hn⟩ := List.mem_flatMap.1 he
  unfold signalReport at hn
  rcases List.mem_append.1 hn with hn | hn
  · exact Trace.spared_speak _ _ _ e hn
  · split at hn
    · exact Trace.spared_speak _ _ _ e hn
    · simp at hn

theorem spared_farewell (result : Except Fault Bool) (id : SocketId) :
    Spared id (farewell result) := by
  unfold farewell
  split
  · exact Trace.spared_speak _ _ _
  · exact Trace.spared_nil

/-- How failures tell on a run: those of its own socket make it fail and come last, those of a
connection do not keep it from its own socket. -/
structure Contained (s : Server) (socket : ServerSocket) (ran : Ran Server Ending) : Prop where
  failed : ran.result = .ok (.status 1) ↔ ∃ e ∈ ran.trace, e.isFatal s.socketId = true
  otherwise : ran.trace.Spared s.socketId →
    ran.result = .ok (.status 0) ∨
      ∃ f, ran.result = .error f ∧ Excuse s socket ran.trace f
  once : ∀ (before : Trace) e (after : Trace), ran.trace = before ++ e :: after →
    e.isFatal s.socketId = true →
    before.Spared s.socketId ∧ after.Spared s.socketId ∧ after.Calm
  resumes : ∀ n (before after : Trace), ran.trace = before ++ .closed (.connection n) :: after →
    (s.token.cancelled || before.any Event.isStop) = true ∨ after.Resumes s.socketId ∨
      (∃ f, ran.result = .error f ∧ Excuse s socket ran.trace f) ∧ after.Calm

section

variable {s : Server} {around : Surroundings} {socket : ServerSocket} {c : Context}

theorem resumes_mainLoop {n : Nat} {before after : Trace}
    (ht : (s.mainLoop socket c).trace = before ++ .closed (.connection n) :: after) :
    (s.token.cancelled || before.any Event.isStop) = true ∨ after.Resumes s.socketId ∨
      (∃ f, (s.mainLoop socket c).result = .error f) ∧ after.Calm := by
  unfold mainLoop serve at ht ⊢
  split at ht
  · have hpersistent := Stream.Listener.persistent_service
      ((s.up socket c).listener s.socketId socket (s.prepared socket c).2)
    rcases hpersistent.closed _ _ _ ht with h | h
    · exact .inl h
    · cases h with
      | resumes h => exact .inr (.inl h)
      | lapses hf _ hcalm => exact .inr (.inr ⟨⟨_, hf⟩, hcalm⟩)
  · have hframe := Messaging.Mailbox.frame_service
      ((s.up socket c).mailbox s.socketId socket (s.prepared socket c).2)
    have hmem : .closed (.connection n) ∈ before ++ .closed (.connection n) :: after := by simp
    exact absurd (ht ▸ hmem) (Trace.not_closed_of_onlyOn hframe.trace)

theorem not_closed_preface (h : socket.obstacles.allow around.singleStack = true) (q : SocketId) :
    .closed q ∉ s.preface around socket c := by
  intro hm
  have h0 := s.closings_preface around socket c h q
  unfold Trace.closings at h0
  simpa using List.countP_eq_zero.1 h0 _ hm

theorem not_closed_shutDown (s : Server) (socket : ServerSocket) (n : Nat) :
    .closed (.connection n) ∉ (s.mainLoop socket c).state.shutDown.1 ++
      farewell (s.mainLoop socket c).result := by
  obtain ⟨d, hdown⟩ := s.shutDown_mainLoop socket c
  intro hm
  rw [hdown] at hm
  rcases List.mem_append.1 hm with hm | hm
  · rcases List.mem_append.1 hm with hm | hm
    · rcases List.mem_append.1 hm with hm | hm
      · simp [Trace.speak] at hm
      · simpa [Event.aside] using aside_signals _ _ hm
    · simp [socketId] at hm
  · simpa [Event.aside] using aside_farewell _ _ hm

theorem spared_shutDown (s : Server) (socket : ServerSocket) (id : SocketId) :
    Spared id ((s.mainLoop socket c).state.shutDown.1 ++
      farewell (s.mainLoop socket c).result) := by
  obtain ⟨d, hdown⟩ := s.shutDown_mainLoop socket c
  rw [hdown]
  exact spared_append.2 ⟨spared_append.2 ⟨spared_append.2 ⟨Trace.spared_speak _ _ _,
    spared_reports _ _⟩, by simp [Spared, Event.isFatal]⟩, spared_farewell _ _⟩

theorem contained_run (hstart : starts s.config around socket = true) :
    Contained s socket (s.run around socket) := by
  obtain ⟨c, hc, hallow, -, hrun⟩ := run_of_starts hstart
  rw [hrun]
  have hpreface := s.spared_preface around socket c s.socketId hallow
  have hcalm := (still_ending (s.mainLoop socket c).state (s.mainLoop socket c).result).calm
  have hfate := ((s.fate_mainLoop socket c).prepend hpreface).append
    (s.spared_shutDown socket s.socketId) hcalm
  rw [← List.append_assoc] at hfate
  have hexcuse {f : Fault} (hf : (s.mainLoop socket c).result = .error f) :=
    excuse_of_fault hc hf around
  refine ⟨?_, fun hspared => ?_, fun before e after ht he => ?_, fun n before after ht => ?_⟩
  · rw [← hfate.iff]
    cases hresult : (s.mainLoop socket c).result with
    | error f => simp [Except.map]
    | ok usable => cases usable <;> simp [Except.map, status]
  · cases hresult : (s.mainLoop socket c).result with
    | error f => exact .inr ⟨f, rfl, hresult ▸ hexcuse hresult⟩
    | ok usable =>
      cases usable with
      | true => exact .inl rfl
      | false =>
        obtain ⟨e, he, hfatal⟩ := hfate.iff.1 hresult
        exact absurd (hspared e he) (by simp [hfatal])
  · have hmem : e ∈ before ++ e :: after := by simp
    rw [← ht] at hmem
    exact Trace.Fails.once (hfate.fails (hfate.iff.2 ⟨e, hmem, he⟩)) ht he
  · rw [List.append_assoc] at ht
    obtain ⟨b, a, hmain, rfl, rfl⟩ := Trace.split_middle ht
      (not_closed_preface hallow _) (not_closed_shutDown _ _ n)
    have hstill := (s.still_preface around socket c).not_stop
    have hbefore : List.any (s.preface around socket c ++ b) Event.isStop =
        b.any Event.isStop := by
      rw [List.any_append, List.any_eq_false.2 fun x hx => by simp [hstill x hx], Bool.false_or]
    rw [hbefore]
    rcases resumes_mainLoop hmain with h | h | ⟨⟨f, hf⟩, ha⟩
    · exact .inl h
    · exact .inr (.inl (h.append _))
    · exact .inr (.inr ⟨⟨f, by simp [hf, Except.map], hexcuse hf⟩, Trace.calm_append.2 ⟨ha, hcalm⟩⟩)

end

/-- A run that starts returns one just when its own socket has failed, or a connection before its
session, and that is the last thing it waits for or takes in; otherwise it returns zero, unless it
comes to a fault that lies in its timeouts or in the address of a peer, or a peer stays blocked who
is sent to without a limit. Whatever happens on a connection ends its session at most. -/
theorem failures_contained (s : Server) (around : Surroundings) (socket : ServerSocket) :
    (starts s.config around socket = true → Contained s socket (s.run around socket)) ∧
    ∀ t : Stream.Session,
      t.run.result = .ok false ↔ ∃ e ∈ t.run.trace, e.breaks t.endpoint.id = true :=
  ⟨contained_run, Stream.Session.breaks_run⟩

def inputOutputError : SystemError := .numbered (some 5) (some "Input/output error")

def failing : ServerSocket :=
  { ServerSocket.silent with script := [
    .delivering ⟨some ⟨.tuple [.text "192.0.2.10", .int 36412],
      [⟨.error, some inputOutputError, none, none, none⟩], [], none⟩, none⟩,
    ⟨.ready, some inputOutputError, none, none, none⟩] }

theorem failures_contained_failing :
    ((new .usual).run ⟨true, true, 0, false⟩ failing).result = .ok (.status 1) ∧
    ∃ before after : Trace, ((new .usual).run ⟨true, true, 0, false⟩ failing).trace =
        before ++ .closed (.connection 0) :: after ∧
      after.Resumes (.server 0) := by
  obtain ⟨h, -⟩ := failures_contained (new .usual) ⟨true, true, 0, false⟩ failing
  have hcontained := h (by decide +kernel)
  have hresult := hcontained.failed.2 (List.any_eq_true.1 (by decide +kernel))
  have hclosed : ((new .usual).run ⟨true, true, 0, false⟩ failing).trace.closings
      (.connection 0) = 1 := by decide +kernel
  obtain ⟨e, he, hq⟩ := List.countP_pos_iff.1 (hclosed ▸ Nat.one_pos)
  obtain ⟨before, after, ht⟩ := List.append_of_mem he
  have heq : e = .closed (.connection 0) := by cases e <;> simp_all
  rw [heq] at ht
  have hstill : ((new .usual).run ⟨true, true, 0, false⟩ failing).trace.any Event.isStop =
      false := by decide +kernel
  rw [ht, List.any_append, Bool.or_eq_false_iff] at hstill
  refine ⟨hresult, before, after, ht, ?_⟩
  rcases hcontained.resumes 0 before after ht with hstop | hresumes | ⟨⟨f, hf, -⟩, -⟩
  · exact absurd hstop (by simp [hstill.1, new, Token.fresh])
  · exact hresumes
  · simp [hresult] at hf

theorem fault_of_poll_timeout :
    ¬ ∀ (s : Server) (around : Surroundings) (socket : ServerSocket),
      starts s.config around socket = true →
      (∀ i ∈ socket.script, ∀ a, i.payload? = some a →
        ∀ sender, a.sender? s.config.mode = some sender → Peer.renders sender = true) →
      (s.run around socket).trace.Spared s.socketId →
      (s.run around socket).result = .ok (.status 0) := by
  intro h
  have hspared : (endless.run ⟨true, true, 0, false⟩ .silent).trace.all
      (fun e => !e.isFatal endless.socketId) = true := by decide +kernel
  have h0 := h endless ⟨true, true, 0, false⟩ .silent (by decide +kernel)
    (by simp [ServerSocket.silent]) fun e he => by simpa using List.all_eq_true.1 hspared e he
  have h1 := congrArg Except.isOk h0
  exact absurd h1 (by decide +kernel)

end Server

end SctpProbe
