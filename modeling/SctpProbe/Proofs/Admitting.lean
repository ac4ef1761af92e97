import SctpProbe.Proofs.Floor
set_option autoImplicit false

namespace SctpProbe

open Network

/-- What an item brings if it is found ready and its call meets no failure. -/
def Network.Item.admitted? {α : Type} (i : Item α) : Option α :=
  if i.poll = .ready then i.delivery.toOption else none

def ServerSocket.connections (socket : ServerSocket) : List Connection :=
  (socket.script.map (Item.filterMap Arrival.connection?)).filterMap Item.admitted?

namespace Network

variable {α : Type} {timeout : Value} {t : Token} {e : Endpoint α}

/-- What is still to be admitted behind an endpoint. -/
def Endpoint.ahead (e : Endpoint α) : List α := e.script.filterMap Item.admitted?

theorem Item.admitted_of_error {i : Item α} {err : SystemError} (h : i.delivery = .error err) :
    i.admitted? = none := by
  simp [admitted?, h, Except.toOption]

theorem ahead_of_cons {i : Item α} {rest : List (Item α)} (h : e.script = i :: rest)
    (hi : i.admitted? = none) : e.advanced.ahead = e.ahead := by
  simp [Endpoint.ahead, h, hi]

theorem poll_of_outcome {shut : Bool} {i : Item α}
    (h : outcome timeout shut i = .ok .ready) : i.poll = .ready := by
  unfold outcome at h
  split at h
  · next o hr =>
    simp only [Except.ok.injEq] at h
    exact absurd (h ▸ hr) (registration_ne_ready shut i)
  · cases hl : Limit.ofValue timeout with
    | error f => simp [hl, Except.map] at h
    | ok limit =>
      simp only [hl, Except.map, Except.ok.injEq, outcomeWithin] at h
      split at h
      · simp at h
      · split at h
        · assumption
        · simp at h
        · simp at h

theorem poll_of_ready {i : Item α} (h : (wait timeout t e).found = .ready i) : i.poll = .ready := by
  obtain ⟨-, hs, hp⟩ := wait_of_ready h
  unfold Endpoint.prospect at hp
  rw [hs] at hp
  exact poll_of_outcome hp

theorem outcome_of_poll (hlimit : Limit.ofValue timeout ≠ .ok .expired) {shut : Bool} {i : Item α}
    {o : Outcome} (hp : i.poll = .ready) (h : outcome timeout shut i = .ok o) :
    o = .ready ∨ ∃ err, o = .failed err := by
  unfold outcome registration at h
  cases shut with
  | true =>
    simp only [true_or, if_true, Except.ok.injEq] at h
    exact .inr ⟨_, h.symm⟩
  | false =>
    simp only [hp] at h
    cases hl : Limit.ofValue timeout with
    | error f => simp [hl, Except.map] at h
    | ok limit =>
      have hexpired : limit ≠ .expired := fun h0 => hlimit (h0 ▸ hl)
      simp only [hl, Except.map, outcomeWithin, hexpired, if_false] at h
      simp_all

theorem ahead_of_idle (hlimit : Limit.ofValue timeout ≠ .ok .expired)
    (h : (wait timeout t e).found = .idle) : e.advanced.ahead = e.ahead := by
  cases hs : e.script with
  | nil => simp [Endpoint.ahead, hs]
  | cons i rest =>
    refine ahead_of_cons hs (if_neg fun hready => ?_)
    rcases wait_cases timeout t e with ⟨f, -, -, hf⟩ | ⟨o, hp, -, hf⟩
    · simp [hf] at h
    · rw [Endpoint.prospect, hs] at hp
      rw [hs] at hf
      rcases outcome_of_poll hlimit hready hp with rfl | ⟨err, rfl⟩
      · simp [hf, Found.ofOutcome] at h
      · simp [hf, Found.ofOutcome] at h

end Network

theorem Config.limit_pollTimeout (c : Config) :
    Network.Limit.ofValue c.pollTimeout.toValue ≠ .ok .expired := by
  rw [Limit.ofValue_toValue]
  unfold Limit.ofNumber
  rw [c.pollTimeout_not_atMost]
  simp only [Bool.false_eq_true, if_false]
  cases c.pollTimeout.real with
  | error f => simp [Except.map]
  | ok x =>
    simp only [Except.map, ne_eq, Except.ok.injEq]
    split <;> simp

namespace Stream.Listener

/-- The ways in which accepting can end, with the connections that are still to come. -/
inductive Admission (s : Listener) : Ran Listener Accepted → Prop
  | without {trace : Trace} {last : Listener} {result : Except Fault Accepted}
    (q : Quiet s trace last) (h : ∀ a, result ≠ .ok (some a))
    (ha : result = .ok none → last.endpoint.ahead = s.endpoint.ahead) :
    Admission s ⟨trace, last, result⟩
  | admitted {trace : Trace} {last : Listener} {c : Connection} (q : Quiet s trace last)
    (h : s.endpoint.ahead = c :: last.endpoint.ahead) :
    Admission s ⟨trace ++ last.arrival c, last.adopted c, last.handover c⟩

theorem Admission.after {s mid : Listener} {trace : Trace} {ran : Ran Listener Accepted}
    (q : Quiet s trace mid) (ha : mid.endpoint.ahead = s.endpoint.ahead) (h : Admission mid ran) :
    Admission s (ran.after trace) := by
  cases h with
  | without q' h hn => exact .without (q.trans q') h fun hr => (hn hr).trans ha
  | @admitted rest last c q' h =>
    have hm := Admission.admitted (q.trans q') (ha ▸ h)
    simpa [Ran.after] using hm

theorem ahead_polled_of_error {s : Listener} {item : Item Connection} {err : SystemError}
    (hf : s.poll.found = .ready item) (hd : item.delivery = .error err) :
    s.polled.endpoint.ahead = s.endpoint.ahead := by
  have h := ahead_of_cons (wait_of_ready hf).2.1 (Item.admitted_of_error hd)
  simpa [polled, poll] using h

theorem ahead_again {s next : Listener} {trace : Trace} (h : s.acceptTurn = .again trace next) :
    next.endpoint.ahead = s.endpoint.ahead := by
  cases step_again h with
  | idle _ hf =>
    have hi := ahead_of_idle s.context.config.limit_pollTimeout hf
    simpa [polled, poll] using hi
  | again _ hf ha =>
    cases ha with
    | retried hd => exact ahead_polled_of_error hf hd

theorem admission_done {s : Listener} {ran : Ran Listener Accepted}
    (h : s.acceptTurn = .done ran) : Admission s ran := by
  cases step_done h with
  | stopped => exact .without (.refl s) (by simp) fun _ => rfl
  | broken => exact .without s.quiet_polled (by simp) (by simp)
  | refused => exact .without s.quiet_polled (by simp) (by simp)
  | @done item ran _ hf ha =>
    have hq := s.quiet_called item
    have hadmitted : ∀ c, item.delivery = .ok c →
        s.endpoint.ahead = c :: (s.called item).endpoint.ahead := by
      intro c hd
      have hi : item.admitted? = some c := by
        simp [Item.admitted?, poll_of_ready hf, hd, Except.toOption]
      have hs := (wait_of_ready hf).2.1
      have htail : (s.called item).endpoint.ahead =
          s.endpoint.script.tail.filterMap Item.admitted? := by
        simp [Endpoint.ahead, called, polled, poll]
      rw [htail, Endpoint.ahead, hs]
      simp [hi]
    cases ha with
    | @failed e hd =>
      exact Admission.without (hq.trans (quiet_failure _ e)) (by simp) (by simp)
    | @blocking c e hd hu =>
      have hm := Admission.admitted hq (hadmitted c hd)
      simpa [handover, hu, Ran.after] using hm
    | @nameless c f hd hu hp =>
      have hm := Admission.admitted hq (hadmitted c hd)
      simpa [handover, hu, hp, Except.map, Ran.after] using hm
    | @taken c peer hd hu hp =>
      have hm := Admission.admitted hq (hadmitted c hd)
      simpa [handover, hu, hp, Except.map, Ran.after] using hm

theorem admission (s : Listener) : Admission s s.accept := by
  refine loop_induction Admission ?_ ?_ s
  · intro s ran h
    exact admission_done h
  · intro s trace next ran h ih
    exact ih.after (quiet_again h) (ahead_again h)

/-- What is shown of a connection between its greeting and its end. -/
def talk (s : Listener) (conn : Endpoint (List UInt8)) (shown : String) : Trace :=
  (s.session conn).trace ++ verdict (s.session conn).result shown

theorem onlyOn_talk (s : Listener) (conn : Endpoint (List UInt8)) (shown : String) :
    Trace.OnlyOn conn.id (s.talk conn shown) :=
  Trace.onlyOn_append.2 ⟨(Session.frame_run ⟨s.token, conn, s.context⟩).trace,
    onlyOn_verdict _ _ _⟩

theorem accepts_of_onlyOn {id : SocketId} {t : Trace} (h : t.OnlyOn id) :
    t.countP Event.isAccept = 0 := by
  refine List.countP_eq_zero.2 fun e he => ?_
  have h0 := h e he
  cases e <;> simp_all [Event.onlyOn, Event.isAccept]

theorem accepts_console (text : String) : (console text).countP Event.isAccept = 0 := by
  have h : Trace.OnlyOn (.server 0) (console text) := Trace.onlyOn_console text
  exact accepts_of_onlyOn h

/-- A round that ends well has taken as many connections off those to come as it has accepted. -/
theorem ahead_round {s : Listener} {ran : Ran Listener Bool} (hr : Round s ran)
    (hok : ran.result = .ok true) :
    ran.state.endpoint.ahead = s.endpoint.ahead.drop (ran.trace.countP Event.isAccept) ∧
      ran.state.connections.length = s.connections.length + ran.trace.countP Event.isAccept := by
  have ha := s.admission
  cases hr with
  | stopped h =>
    generalize s.accept = accepted at ha h ⊢
    cases ha with
    | without q _ hn => simp [accepts_of_onlyOn q.trace, hn h, q.connections]
    | @admitted trace last c => exact absurd h (last.handover_ne_none c)
  | failed => simp at hok
  | faulted => simp at hok
  | unshown => simp at hok
  | @served conn peer shown h hp =>
    have hvisit : (s.accept.state.serve conn shown).trace.countP Event.isAccept = 0 := by
      have htalk := accepts_of_onlyOn (onlyOn_talk s.accept.state conn shown)
      have hclosed : [Event.closed conn.id].countP Event.isAccept = 0 := rfl
      rw [serve_eq, List.countP_append, hclosed]
      exact htalk
    have hstate : (s.accept.state.serve conn shown).state = s.accept.state.served conn := by
      rw [serve_eq]
    simp only [Ran.state_after, Ran.trace_after, List.countP_append, hvisit, accepts_console,
      hstate, length_served]
    generalize s.accept = accepted at ha h ⊢
    cases ha with
    | without _ hw => exact absurd h (hw _)
    | @admitted trace last c q hahead =>
      have harrival : (last.arrival c).countP Event.isAccept = 1 := rfl
      have hlast : ((last.adopted c).served conn).endpoint = last.endpoint := rfl
      simp [accepts_of_onlyOn q.trace, harrival, hlast, hahead, length_adopted, q.connections]

/-- The connection that has been accepted was the first one to be admitted. -/
theorem first_of_accept {s : Listener} {conn : Endpoint (List UInt8)} {peer : Option Peer}
    (h : s.accept.result = .ok (some (conn, peer))) :
    ∃ c, s.endpoint.ahead = c :: s.accept.state.endpoint.ahead ∧ conn = s.fresh c ∧
      s.accept.state.connections.length = s.connections.length + 1 := by
  have ha := s.admission
  generalize s.accept = ran at ha h ⊢
  cases ha with
  | without _ hw => exact absurd h (hw _)
  | @admitted trace last c q hahead =>
    obtain ⟨-, rfl, -⟩ := of_handover_ok h
    have hfresh : last.fresh c = s.fresh c := by rw [fresh, fresh, nextId, nextId, q.connections]
    exact ⟨c, hahead, hfresh, by rw [length_adopted, q.connections]⟩

end Stream.Listener

end SctpProbe
