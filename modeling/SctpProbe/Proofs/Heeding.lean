import SctpProbe.Proofs.Sending
import SctpProbe.Proofs.Turns.Listener
import SctpProbe.Proofs.Turns.Mailbox
import SctpProbe.Proofs.Turns.Run
import SctpProbe.Proofs.Turns.Service
import SctpProbe.Proofs.Watch
set_option autoImplicit false

/-!
All loops heed a request to stop. `Heeds` says so of a part of a run: a watch that fits the token in
front of it gets through it and fits the token behind it. Parts that follow each other heed a
request if each of them does, and so it goes from waits and calls up to whole runs
(`Server.heeds_run`).
-/

namespace SctpProbe

open Network

namespace Network

/-- How far a watch has to be, given whether the token is cancelled. -/
def Watch.Fits (w : Watch) : Bool → Prop
  | false => w = .awake
  | true => w = .stopping ∨ w = .winding

structure Heeds (before : Bool) (t : Trace) (after : Bool) : Prop where
  watched : ∀ w : Watch, w.Fits before → ∃ v, w.through t = some v ∧ v.Fits after
  cancelled : after = (before || t.any Event.isStop)

def Role.still : Role → Bool
  | .note => true
  | .other => true
  | _ => false

def Trace.Still (t : Trace) : Prop := ∀ e ∈ t, e.role.still = true

namespace Trace

theorem still_nil : Still [] := by simp [Still]

theorem still_append {t u : Trace} : Still (t ++ u) ↔ Still t ∧ Still u := by
  simp [Still, or_imp, forall_and]

theorem still_cons {e : Event} {t : Trace} : Still (e :: t) ↔ e.role.still = true ∧ Still t := by
  simp [Still]

theorem Aside.still {t : Trace} (h : t.Aside) : t.Still := by
  intro e he
  have h0 := h e he
  cases e <;> simp_all [Event.aside, Event.role, Role.still]

theorem Still.calm {t : Trace} (h : t.Still) : t.Calm := by
  intro e he
  have h0 := h e he
  cases hr : e.role <;> simp_all [Role.still, Role.calm]

theorem Still.not_stop {t : Trace} (h : t.Still) : ∀ x ∈ t, x.isStop = false := by
  intro x hx
  refine Event.not_stop_of_role fun hr => ?_
  have h0 := h x hx
  simp [hr, Role.still] at h0

theorem still_speak (level : Log.Level) (speaker : Log.Speaker) (message : String) :
    Still (speak level speaker message) :=
  (aside_speak level speaker message).still

theorem still_console (text : String) : Still (console text) := by
  intro e he
  simp only [console, List.mem_map] at he
  obtain ⟨l, -, rfl⟩ := he
  rfl

end Trace

namespace Heeds

variable {a b c : Bool} {t u : Trace}

theorem refl (c : Bool) : Heeds c [] c := ⟨fun w h => ⟨w, rfl, h⟩, by simp⟩

theorem trans (h : Heeds a t b) (k : Heeds b u c) : Heeds a (t ++ u) c := by
  refine ⟨fun w hw => ?_, ?_⟩
  · obtain ⟨v, hv, hf⟩ := h.watched w hw
    obtain ⟨x, hx, hg⟩ := k.watched v hf
    refine ⟨x, ?_, hg⟩
    rw [Watch.through_append, hv]
    exact hx
  · rw [k.cancelled, h.cancelled, List.any_append, Bool.or_assoc]

theorem of_still (h : t.Still) (c : Bool) : Heeds c t c := by
  induction t with
  | nil => exact .refl c
  | cons e rest ih =>
    obtain ⟨he, hr⟩ := Trace.still_cons.1 h
    have hstop := Trace.Still.not_stop h e List.mem_cons_self
    refine trans (t := [e]) (b := c) ⟨fun w hw => ?_, ?_⟩ (ih hr)
    · cases c with
      | false =>
        cases hw
        refine ⟨.awake, ?_, rfl⟩
        cases hrole : e.role <;> simp_all [Role.still, Watch.through_cons, Watch.next]
      | true =>
        refine ⟨.winding, ?_, .inr rfl⟩
        rcases hw with rfl | rfl
        · cases hrole : e.role <;> simp_all [Role.still, Watch.through_cons, Watch.next]
        · cases hrole : e.role <;> simp_all [Role.still, Watch.through_cons, Watch.next]
    · simp [hstop]

theorem of_stops (h : ∀ e ∈ t, e.isStop = true) (c : Bool) :
    Heeds c t (c || t.any Event.isStop) := by
  induction t generalizing c with
  | nil => simpa using Heeds.refl c
  | cons e rest ih =>
    have he := Event.role_eq_stop.2 (h e List.mem_cons_self)
    have hstop := h e List.mem_cons_self
    have hr := ih (fun x hx => h x (List.mem_cons_of_mem _ hx)) true
    have h1 : Heeds c [e] true := by
      refine ⟨fun w hw => ?_, by simp [hstop]⟩
      cases c with
      | false =>
        cases hw
        exact ⟨.stopping, by simp [Watch.through_cons, Watch.next, he], .inl rfl⟩
      | true =>
        refine ⟨w, ?_, hw⟩
        rcases hw with rfl | rfl <;> simp [Watch.through_cons, Watch.next, he]
    have h2 := h1.trans hr
    simpa [hstop] using h2

end Heeds

variable {α : Type}

theorem any_stops {t : Trace} (h : ∀ e ∈ t, e.isStop = true) : t.any Event.isStop = !t.isEmpty := by
  cases t with
  | nil => rfl
  | cons e rest => simp [h e List.mem_cons_self]

theorem Token.heeds_strike (t : Token) (i : Item α) (m : Moment) :
    Heeds t.cancelled (t.strike i m).1 (t.strike i m).2.cancelled := by
  have hs := t.isStop_strike i m
  rw [t.cancelled_strike_eq, ← any_stops hs]
  exact .of_stops hs _

theorem Endpoint.heeds_beginning (e : Endpoint α) (t : Token) :
    Heeds t.cancelled (e.beginning t).1 (e.beginning t).2.cancelled := by
  have hs := e.isStop_beginning t
  rw [e.cancelled_beginning, ← any_stops hs]
  exact .of_stops hs _

namespace Watch

def pending (s : SocketId) : Bool → Watch
  | false => .ready s
  | true => .calling s

theorem through_stops {t : Trace} (h : ∀ e ∈ t, e.isStop = true) :
    awake.through t = some (if t.any Event.isStop then stopping else awake) := by
  cases t with
  | nil => rfl
  | cons e rest =>
    have he := Event.role_eq_stop.2 (h e List.mem_cons_self)
    have hr : stopping.through rest = some stopping := by
      have hrest : ∀ x ∈ rest, x.isStop = true := fun x hx => h x (List.mem_cons_of_mem _ hx)
      clear h he
      induction rest with
      | nil => rfl
      | cons x rest ih =>
        have hx := Event.role_eq_stop.2 (hrest x List.mem_cons_self)
        rw [through_cons]
        simp only [next, hx, Option.bind_some]
        exact ih fun y hy => hrest y (List.mem_cons_of_mem _ hy)
    rw [through_cons]
    simp [next, he, hr, h e List.mem_cons_self]

theorem through_gap {t : Trace} (h : t.Gap) (s : SocketId) (c : Bool) :
    (pending s c).through t = some (pending s (c || t.any Event.isStop)) := by
  induction t generalizing c with
  | nil => simp
  | cons e rest ih =>
    obtain ⟨he, hr⟩ := Trace.gap_cons.1 h
    cases hrole : e.role with
    | stop =>
      have hstop := Event.role_eq_stop.1 hrole
      have hi := ih hr true
      rw [through_cons]
      cases c <;> simpa [pending, next, hrole, hstop] using hi
    | note =>
      have hstop := Event.not_stop_of_role (by simp [hrole] : e.role ≠ .stop)
      have hi := ih hr c
      rw [through_cons]
      cases c <;> simpa [pending, next, hrole, hstop] using hi
    | wait q b => simp [hrole, Role.gap] at he
    | call q => simp [hrole, Role.gap] at he
    | other => simp [hrole, Role.gap] at he

end Watch

section

variable (e : Endpoint α) (t : Token) (timeout : Value)

theorem heeds_waited (hc : t.cancelled = false) {o : Outcome} (ho : o ≠ .ready) :
    Heeds false ((e.beginning t).1 ++ [.waited e.id timeout o]) (e.beginning t).2.cancelled := by
  have hs := e.isStop_beginning t
  have hb := (e.heeds_beginning t).cancelled
  rw [hc, Bool.false_or] at hb
  refine ⟨fun w hw => ?_, ?_⟩
  · cases hw
    rw [hb, Watch.through_append, Watch.through_stops hs]
    have hrole : (Event.waited e.id timeout o).role = .wait e.id false := by
      simp [Event.role, ho]
    cases (e.beginning t).1.any Event.isStop with
    | false => exact ⟨.awake, by simp [Watch.through_cons, Watch.next, hrole], rfl⟩
    | true => exact ⟨.winding, by simp [Watch.through_cons, Watch.next, hrole], .inr rfl⟩
  · rw [hb]
    simp [Event.isStop]

/-- A wait that has found its socket ready, up to the call. -/
theorem through_ready (hc : t.cancelled = false) (notes : Trace) (hn : ∀ x ∈ notes, x.role = .note)
    (i : Item α) :
    Watch.awake.through ((e.beginning t).1 ++ [.waited e.id timeout .ready] ++ notes ++
      ((e.beginning t).2.strike i .call).1) =
      some (.pending e.id ((e.beginning t).2.strike i .call).2.cancelled) ∧
    ((e.beginning t).2.strike i .call).2.cancelled =
      List.any ((e.beginning t).1 ++ [.waited e.id timeout .ready] ++ notes ++
        ((e.beginning t).2.strike i .call).1) Event.isStop := by
  have hs := e.isStop_beginning t
  have hb := (e.heeds_beginning t).cancelled
  rw [hc, Bool.false_or] at hb
  have hstrike := ((e.beginning t).2.heeds_strike i .call).cancelled
  have hgap : Trace.Gap (notes ++ ((e.beginning t).2.strike i .call).1) := by
    intro x hx
    rcases List.mem_append.1 hx with hx | hx
    · simp [hn x hx, Role.gap]
    · simp [Event.role_eq_stop.2 ((e.beginning t).2.isStop_strike i .call x hx), Role.gap]
  have hstill : notes.any Event.isStop = false := by
    rw [List.any_eq_false]
    intro x hx
    simp [Event.not_stop_of_role (by simp [hn x hx] : x.role ≠ .stop)]
  have hpend : (Watch.pending e.id (e.beginning t).2.cancelled).through
      (notes ++ ((e.beginning t).2.strike i .call).1) =
      some (.pending e.id ((e.beginning t).2.strike i .call).2.cancelled) := by
    rw [Watch.through_gap hgap, List.any_append, hstill, Bool.false_or, hstrike]
  have hwait : Watch.awake.through ((e.beginning t).1 ++ [.waited e.id timeout .ready]) =
      some (.pending e.id (e.beginning t).2.cancelled) := by
    rw [Watch.through_append, Watch.through_stops hs, hb]
    cases (e.beginning t).1.any Event.isStop <;> rfl
  refine ⟨?_, ?_⟩
  · rw [List.append_assoc, Watch.through_append, hwait]
    exact hpend
  · rw [hstrike, hb]
    simp [hstill, Event.isStop]

end

theorem Heeds.call {approach rest : Trace} {s : SocketId} {b c : Bool} {e : Event}
    (ho : Watch.awake.through approach = some (.pending s b)) (hb : b = approach.any Event.isStop)
    (he : e.role = .call s) (h : Heeds b rest c) : Heeds false (approach ++ e :: rest) c := by
  have hstop := Event.not_stop_of_role (by simp [he] : e.role ≠ .stop)
  refine ⟨fun w hw => ?_, ?_⟩
  · cases hw
    rw [Watch.through_append, ho]
    simp only [Option.bind_some, Watch.through_cons]
    cases b with
    | false =>
      simp only [Watch.pending, Watch.next, he, if_true, Option.bind_some]
      exact h.watched .awake rfl
    | true =>
      simp only [Watch.pending, Watch.next, he, if_true, Option.bind_some]
      exact h.watched .winding (.inr rfl)
  · rw [h.cancelled, hb]
    simp [hstop]

theorem heeds_ready (notes : Trace) {e : Endpoint α} {t : Token} {timeout : Value} {i : Item α}
    {rest : Trace} {call : Event} {c : Bool} (hc : t.cancelled = false)
    (hf : (wait timeout t e).found = .ready i)
    (hn : ∀ x ∈ notes, x.role = .note) (hcall : call.role = .call e.id)
    (hr : Heeds ((wait timeout t e).token.strike i .call).2.cancelled rest c) :
    Heeds false ((wait timeout t e).trace ++ notes ++ ((wait timeout t e).token.strike i .call).1 ++
      call :: rest) c := by
  obtain ⟨ho, hb⟩ := through_ready e t timeout hc notes hn i
  rw [(wait_of_ready hf).1]
  rw [token_wait] at hr ⊢
  exact .call ho hb hcall hr

theorem heeds_idle {e : Endpoint α} {t : Token} {timeout : Value} (hc : t.cancelled = false)
    (hf : (wait timeout t e).found = .idle) :
    Heeds false (wait timeout t e).trace (wait timeout t e).token.cancelled := by
  obtain ⟨o, ht, ho⟩ := wait_of_idle hf
  rw [ht, token_wait]
  exact heeds_waited _ _ _ hc (by rcases ho with rfl | rfl <;> simp)

theorem heeds_broken {e : Endpoint α} {t : Token} {timeout : Value} {err : SystemError}
    (hc : t.cancelled = false) (hf : (wait timeout t e).found = .broken err) :
    Heeds false (wait timeout t e).trace (wait timeout t e).token.cancelled := by
  rw [wait_of_broken hf, token_wait]
  exact heeds_waited _ _ _ hc (by simp)

theorem heeds_refused {e : Endpoint α} {t : Token} {timeout : Value} {f : Fault}
    (hc : t.cancelled = false) (hf : (wait timeout t e).found = .refused f) :
    Heeds false (wait timeout t e).trace (wait timeout t e).token.cancelled := by
  rw [(wait_of_refused hf).1, token_wait, ← hc]
  exact e.heeds_beginning t

end Network

namespace Stream

theorem heeds_echo (sendTimeout : Value) (id : SocketId) (item : Item (List UInt8))
    (sends : List Send) (token : Token) (bytes : List UInt8) :
    Heeds token.cancelled (echo sendTimeout id item sends token bytes).trace
      (echo sendTimeout id item sends token bytes).token.cancelled := by
  have hcomposes : Composes fun a u b => Heeds a.cancelled u b.cancelled :=
    ⟨fun _ => .refl _, Heeds.trans⟩
  refine composed_echo hcomposes _ _ _ (fun _ _ _ => .of_still (Trace.still_speak _ _ _) _)
    fun t e he => (t.heeds_strike item .send).trans (.of_still ?_ _)
  cases he <;> simp [Trace.Still, Event.role, Role.still]

namespace Session

theorem heeds_report (s : Session) (bytes : List UInt8) (c : Bool) :
    ∃ rest, s.report bytes = .received s.endpoint.id s.context.room (s.chunk bytes).length :: rest ∧
      Heeds c rest c :=
  ⟨_, rfl, .of_still (Trace.still_append.2 ⟨Trace.still_speak _ _ _, Trace.still_console _⟩) c⟩

theorem heeds_reply (s : Session) (item : Item (List UInt8)) (bytes : List UInt8) :
    ∃ rest, s.report bytes ++ (s.reply item bytes).trace =
      .received s.endpoint.id s.context.room (s.chunk bytes).length :: rest ∧
      Heeds s.token.cancelled rest (s.replied item bytes).token.cancelled := by
  obtain ⟨rest, he, hr⟩ := s.heeds_report bytes s.token.cancelled
  exact ⟨rest ++ (s.reply item bytes).trace, by rw [he]; rfl, hr.trans (heeds_echo _ _ _ _ _ _)⟩

theorem heeds_receipt_again {s next : Session} {item : Item (List UInt8)} {trace : Trace}
    (h : Receipt s item (.again trace next)) : ∃ e rest, trace = e :: rest ∧
      e.role = .call s.endpoint.id ∧ Heeds s.token.cancelled rest next.token.cancelled := by
  cases h with
  | retried hd ht => exact ⟨_, [], rfl, rfl, .refl _⟩
  | dumped hd hc he =>
    obtain ⟨rest, he, hr⟩ := s.heeds_report _ s.token.cancelled
    exact ⟨_, rest, he, rfl, hr⟩
  | echoed hd hc he hr =>
    obtain ⟨rest, he, hr⟩ := s.heeds_reply item _
    exact ⟨_, rest, he, rfl, hr⟩

theorem heeds_receipt_done {s : Session} {item : Item (List UInt8)} {ran : Ran Session Bool}
    (h : Receipt s item (.done ran)) : ∃ e rest, ran.trace = e :: rest ∧
      e.role = .call s.endpoint.id ∧ Heeds s.token.cancelled rest ran.state.token.cancelled := by
  cases h with
  | failed hd ht => exact ⟨_, _, rfl, rfl, .of_still (Trace.still_speak _ _ _) _⟩
  | closed hd hc => exact ⟨_, _, rfl, rfl, .of_still (Trace.still_console _) _⟩
  | aborted hd hc he hr =>
    obtain ⟨rest, he, hr⟩ := s.heeds_reply item _
    exact ⟨_, rest, he, rfl, hr⟩

theorem heeds_called {s : Session} {item : Item (List UInt8)} {e : Event} {rest : Trace} {c : Bool}
    (hc : s.token.cancelled = false) (hf : s.poll.found = .ready item)
    (he : e.role = .call (s.called item).endpoint.id)
    (hr : Heeds (s.called item).token.cancelled rest c) :
    Heeds false (s.approach item ++ e :: rest) c := by
  have h := heeds_ready [] hc hf (by simp) (by simpa [called, polled, poll] using he) hr
  rw [List.append_nil] at h
  exact h

theorem heeds_again {s next : Session} {trace : Trace} (h : s.turn = .again trace next) :
    Heeds s.token.cancelled trace next.token.cancelled := by
  cases step_again h with
  | idle hc hf =>
    rw [hc]
    exact heeds_idle hc hf
  | again hc hf hr =>
    obtain ⟨e, rest, rfl, he, hh⟩ := heeds_receipt_again hr
    rw [hc]
    exact heeds_called hc hf he hh

theorem heeds_done {s : Session} {ran : Ran Session Bool} (h : s.turn = .done ran) :
    Heeds s.token.cancelled ran.trace ran.state.token.cancelled := by
  cases step_done h with
  | stopped hc => exact .refl _
  | broken hc hf =>
    rw [hc]
    exact (heeds_broken hc hf).trans (.of_still (Trace.still_speak _ _ _) _)
  | refused hc hf =>
    rw [hc]
    exact heeds_refused hc hf
  | done hc hf hr =>
    obtain ⟨e, rest, ht, he, hh⟩ := heeds_receipt_done hr
    rw [hc, Ran.trace_after, ht]
    exact heeds_called hc hf he hh

theorem heeds_run (s : Session) : Heeds s.token.cancelled s.run.trace
    s.run.state.token.cancelled := by
  refine loop_induction (fun s ran =>
    Heeds s.token.cancelled ran.trace ran.state.token.cancelled) ?_ ?_ s
  · intro s ran h
    exact heeds_done h
  · intro s trace next ran h ih
    exact (heeds_again h).trans ih

end Session

namespace Listener

theorem heeds_acceptance_again {s next : Listener} {item : Item Connection} {trace : Trace}
    (h : Acceptance s item (.again trace next)) : ∃ e rest, trace = e :: rest ∧
      e.role = .call s.endpoint.id ∧ Heeds s.token.cancelled rest next.token.cancelled := by
  cases h with
  | retried hd ht => exact ⟨_, [], rfl, rfl, .refl _⟩

theorem heeds_acceptance_done {s : Listener} {item : Item Connection} {ran : Ran Listener Accepted}
    (h : Acceptance s item (.done ran)) : ∃ e rest, ran.trace = e :: rest ∧
      e.role = .call s.endpoint.id ∧ Heeds s.token.cancelled rest ran.state.token.cancelled := by
  have hu : ∀ c : Connection, Trace.Still [.unblocked s.nextId c.unblocking?] := fun c => by
    simp [Trace.Still, Event.role, Role.still]
  cases h with
  | failed hd ht => exact ⟨_, [], rfl, rfl, .refl _⟩
  | @blocking c e hd hb => exact ⟨_, _, rfl, rfl, .of_still (hu c) _⟩
  | @nameless c f hd hb hp => exact ⟨_, _, rfl, rfl, .of_still (hu c) _⟩
  | @taken c peer hd hb hp => exact ⟨_, _, rfl, rfl, .of_still (hu c) _⟩

theorem heeds_called {s : Listener} {item : Item Connection} {e : Event} {rest : Trace} {c : Bool}
    (hc : s.token.cancelled = false) (hf : s.poll.found = .ready item)
    (he : e.role = .call (s.called item).endpoint.id)
    (hr : Heeds (s.called item).token.cancelled rest c) :
    Heeds false (s.approach item ++ e :: rest) c :=
  heeds_ready (Trace.speak .debug .stream "Going to accept()") hc hf
    (by simp [Trace.speak, Event.role]) (by simpa [called, polled, poll] using he) hr

theorem heeds_again {s next : Listener} {trace : Trace} (h : s.acceptTurn = .again trace next) :
    Heeds s.token.cancelled trace next.token.cancelled := by
  cases step_again h with
  | idle hc hf =>
    rw [hc]
    exact heeds_idle hc hf
  | again hc hf ha =>
    obtain ⟨e, rest, rfl, he, hh⟩ := heeds_acceptance_again ha
    rw [hc]
    exact heeds_called hc hf he hh

theorem heeds_done {s : Listener} {ran : Ran Listener Accepted} (h : s.acceptTurn = .done ran) :
    Heeds s.token.cancelled ran.trace ran.state.token.cancelled := by
  cases step_done h with
  | stopped hc => exact .refl _
  | broken hc hf =>
    rw [hc]
    exact heeds_broken hc hf
  | refused hc hf =>
    rw [hc]
    exact heeds_refused hc hf
  | done hc hf ha =>
    obtain ⟨e, rest, ht, he, hh⟩ := heeds_acceptance_done ha
    rw [hc, Ran.trace_after, ht]
    exact heeds_called hc hf he hh

theorem heeds_accept (s : Listener) :
    Heeds s.token.cancelled s.accept.trace s.accept.state.token.cancelled := by
  refine loop_induction (fun s ran =>
    Heeds s.token.cancelled ran.trace ran.state.token.cancelled) ?_ ?_ s
  · intro s ran h
    exact heeds_done h
  · intro s trace next ran h ih
    exact (heeds_again h).trans ih

theorem still_verdict (result : Except Fault Bool) (shown : String) :
    (verdict result shown).Still := by
  unfold verdict
  split
  · exact Trace.still_speak _ _ _
  · exact Trace.still_nil

theorem heeds_serve (s : Listener) (conn : Endpoint (List UInt8)) (shown : String) :
    Heeds s.token.cancelled (s.serve conn shown).trace
      (s.serve conn shown).state.token.cancelled := by
  have hr := Session.heeds_run ⟨s.token, conn, s.context⟩
  have hc : Trace.Still [.closed conn.id] := by simp [Trace.Still, Event.role, Role.still]
  rw [serve_eq]
  exact (hr.trans (.of_still (still_verdict _ _) _)).trans (.of_still hc _)

theorem heeds_round {s : Listener} {ran : Ran Listener Bool} (h : Round s ran) :
    Heeds s.token.cancelled ran.trace ran.state.token.cancelled := by
  have ha := s.heeds_accept
  cases h with
  | stopped hr => exact ha
  | failed hr => exact ha.trans (.of_still (Trace.still_speak _ _ _) _)
  | faulted hr hf => exact ha
  | unshown hr hp => exact ha
  | @served conn peer shown hr hp =>
    have hs := s.accept.state.heeds_serve conn shown
    exact ha.trans ((Heeds.of_still (Trace.still_console _) _).trans hs)

theorem heeds_service (s : Listener) :
    Heeds s.token.cancelled s.service.trace s.service.state.token.cancelled := by
  refine service_induction (fun s ran =>
    Heeds s.token.cancelled ran.trace ran.state.token.cancelled)
    ?_ ?_ ?_ s
  · intro s h
    exact .refl _
  · intro s h hr
    exact heeds_round s.rounding
  · intro s ran h hr ih
    exact (heeds_round s.rounding).trans ih

end Listener

end Stream

namespace Messaging.Mailbox

theorem still_report (c : Context) (p : Piece) (shown : String) : (report c p shown).Still := by
  have hc : (cutNote c.room p.flags).Still := by
    unfold cutNote
    split
    · exact Trace.still_nil
    · exact Trace.still_speak _ _ _
  have hi : (informed p.control).1.Still := by
    unfold informed
    split
    · exact Trace.still_nil
    · exact Trace.still_speak _ _ _
  unfold report
  refine Trace.still_append.2 ⟨Trace.still_append.2 ⟨Trace.still_append.2 ⟨Trace.still_append.2
    ⟨Trace.still_console _, hc⟩, hi⟩, ?_⟩, Trace.still_console _⟩
  split
  · split
    · exact Trace.still_console _
    · exact Trace.still_nil
  · exact Trace.still_nil

theorem heeds_echo (s : Mailbox) (item : Item Message) (p : Piece) (info? : Option DeliveryInfo) :
    Heeds s.token.cancelled (s.echo item p info?).trace
      (s.echo item p info?).state.token.cancelled := by
  have hnote : ∀ reason c, Heeds c (failureNote reason) c :=
    fun reason c => .of_still (Trace.still_speak _ _ _) c
  have hstart : Heeds s.token.cancelled
      (Trace.speak .debug .message "Echoing data back") s.token.cancelled :=
    .of_still (Trace.still_speak _ _ _) _
  unfold echo
  split
  · exact hnote _ _
  · simp only
    split
    · exact hstart
    · refine ((hstart.trans (s.token.heeds_strike item .send)).trans (.of_still ?_ _)).trans ?_
      · simp [Trace.Still, Event.role, Role.still]
      · split
        · exact hnote _ _
        · exact .refl _

theorem heeds_handle (s : Mailbox) (item : Item Message) (p : Piece) :
    Heeds s.token.cancelled (s.handle item p).trace (s.handle item p).state.token.cancelled := by
  have hh := s.handling item p
  generalize s.handle item p = ran at hh ⊢
  have hr : ∀ shown, Trace.Still (Trace.speak .debug .message
      ("Received " ++ toString p.data.length ++ " bytes") ++ report s.context p shown) :=
    fun shown => Trace.still_append.2 ⟨Trace.still_speak _ _ _, still_report _ _ _⟩
  cases hh with
  | unshown h => exact .of_still (Trace.still_speak _ _ _) _
  | reported h he => exact .of_still (hr _) _
  | echoed h he => exact (Heeds.of_still (hr _) _).trans (s.heeds_echo item p _)

theorem heeds_receipt_again {s next : Mailbox} {item : Item Message} {trace : Trace}
    (h : Receipt s item (.again trace next)) : ∃ e rest, trace = e :: rest ∧
      e.role = .call s.endpoint.id ∧ Heeds s.token.cancelled rest next.token.cancelled := by
  cases h with
  | retried hd ht => exact ⟨_, [], rfl, rfl, .refl _⟩
  | notified hd hn => exact ⟨_, _, rfl, rfl, .of_still (Trace.still_speak _ _ _) _⟩
  | closed hd hn hc => exact ⟨_, _, rfl, rfl, .of_still (Trace.still_console _) _⟩
  | handled hd hn hc hr => exact ⟨_, _, rfl, rfl, heeds_handle (s.taken _) item _⟩

theorem heeds_receipt_done {s : Mailbox} {item : Item Message} {ran : Ran Mailbox Bool}
    (h : Receipt s item (.done ran)) : ∃ e rest, ran.trace = e :: rest ∧
      e.role = .call s.endpoint.id ∧ Heeds s.token.cancelled rest ran.state.token.cancelled := by
  cases h with
  | failed hd ht => exact ⟨_, _, rfl, rfl, .of_still (Trace.still_speak _ _ _) _⟩
  | stuck hd hr hm => exact ⟨_, [], rfl, rfl, .refl _⟩
  | faulted hd hn hc hr => exact ⟨_, _, rfl, rfl, heeds_handle (s.taken _) item _⟩

theorem heeds_called {s : Mailbox} {item : Item Message} {e : Event} {rest : Trace} {c : Bool}
    (hc : s.token.cancelled = false) (hf : s.poll.found = .ready item)
    (he : e.role = .call (s.called item).endpoint.id)
    (hr : Heeds (s.called item).token.cancelled rest c) :
    Heeds false (s.approach item ++ e :: rest) c := by
  have h := heeds_ready [] hc hf (by simp) (by simpa [called, polled, poll] using he) hr
  rw [List.append_nil] at h
  exact h

theorem heeds_again {s next : Mailbox} {trace : Trace} (h : s.turn = .again trace next) :
    Heeds s.token.cancelled trace next.token.cancelled := by
  cases step_again h with
  | idle hc hf =>
    rw [hc]
    exact heeds_idle hc hf
  | again hc hf hr =>
    obtain ⟨e, rest, rfl, he, hh⟩ := heeds_receipt_again hr
    rw [hc]
    exact heeds_called hc hf he hh

theorem heeds_done {s : Mailbox} {ran : Ran Mailbox Bool} (h : s.turn = .done ran) :
    Heeds s.token.cancelled ran.trace ran.state.token.cancelled := by
  cases step_done h with
  | stopped hc => exact .refl _
  | broken hc hf =>
    rw [hc]
    exact (heeds_broken hc hf).trans (.of_still (Trace.still_speak _ _ _) _)
  | refused hc hf =>
    rw [hc]
    exact heeds_refused hc hf
  | done hc hf hr =>
    obtain ⟨e, rest, ht, he, hh⟩ := heeds_receipt_done hr
    rw [hc, Ran.trace_after, ht]
    exact heeds_called hc hf he hh

theorem heeds_runOnce (s : Mailbox) :
    Heeds s.token.cancelled s.runOnce.trace s.runOnce.state.token.cancelled := by
  refine loop_induction (fun s ran =>
    Heeds s.token.cancelled ran.trace ran.state.token.cancelled) ?_ ?_ s
  · intro s ran h
    exact heeds_done h
  · intro s trace next ran h ih
    exact (heeds_again h).trans ih

theorem heeds_service (s : Mailbox) :
    Heeds s.token.cancelled s.service.trace s.service.state.token.cancelled := by
  cases h : s.token.cancelled with
  | true =>
    rw [s.service_of_cancelled h, ← h]
    exact .refl _
  | false =>
    rw [s.service_eq h, ← h]
    exact s.heeds_runOnce

end Messaging.Mailbox

theorem Network.still_setUp (config : Config) (type : Int) (id : SocketId) (optional : Bool)
    (o : Obstacles) : (setUp config type id optional o).1.Still := by
  have ht := (aside_tryAll (aside_attempts config id optional o)).still
  have hone : ∀ e : Event, e.role = .other → Trace.Still [e] := fun e he => by
    simp [Trace.Still, he, Role.still]
  have hm := making config type id optional o
  generalize setUp config type id optional o = result at hm ⊢
  cases hm with
  | unmade h => exact hone _ rfl
  | failed h hf => exact Trace.still_append.2 ⟨Trace.still_append.2 ⟨hone _ rfl, ht⟩, hone _ rfl⟩
  | made h hf => exact Trace.still_append.2 ⟨hone _ rfl, ht⟩

namespace Server

theorem still_preface (s : Server) (around : Surroundings) (socket : ServerSocket) (c : Context) :
    (s.preface around socket c).Still := by
  simp only [preface, Trace.still_append]
  exact ⟨⟨⟨⟨s.aside_opening.still, still_setUp _ _ _ _ _⟩, (s.aside_prepared socket c).still⟩,
    Trace.still_speak _ _ _⟩, (aside_announce _ _ _).still⟩

theorem still_close (c : Context) : c.close.1.Still := by
  unfold Context.close
  split <;> simp [Trace.Still, Event.role, Role.still]

theorem still_shutDown (s : Server) : s.shutDown.1.Still := by
  unfold shutDown
  refine Trace.still_append.2 ⟨Trace.still_append.2 ⟨Trace.still_speak _ _ _,
    (aside_signals _).still⟩, ?_⟩
  split
  · exact still_close _
  · exact Trace.still_nil

theorem still_ending (s : Server) (result : Except Fault Bool) :
    Trace.Still (s.shutDown.1 ++ farewell result) :=
  Trace.still_append.2 ⟨still_shutDown _, (aside_farewell _).still⟩

theorem heeds_mainLoop (s : Server) (socket : ServerSocket) (c : Context) :
    Heeds s.token.cancelled (s.mainLoop socket c).trace
      (s.mainLoop socket c).state.token.cancelled := by
  unfold mainLoop serve
  split
  · exact ((s.up socket c).listener s.socketId socket (s.prepared socket c).2).heeds_service
  · exact ((s.up socket c).mailbox s.socketId socket (s.prepared socket c).2).heeds_service

/-- A run that does not get to its main loop waits for nothing and takes nothing in. -/
theorem still_or_served (s : Server) (around : Surroundings) (socket : ServerSocket) :
    ((s.run around socket).trace.Still ∧ (s.run around socket).state.token = s.token) ∨
    ∃ c, Context.ofConfig s.config = .ok c ∧ s.run around socket =
      ⟨s.preface around socket c ++ (s.mainLoop socket c).trace ++
        (s.mainLoop socket c).state.shutDown.1 ++ farewell (s.mainLoop socket c).result,
        (s.mainLoop socket c).state.shutDown.2, (s.mainLoop socket c).result.map status⟩ := by
  have hr := s.course around socket
  generalize s.run around socket = ran at hr ⊢
  cases hr with
  | unready => exact .inl ⟨Trace.still_speak _ _ _, rfl⟩
  | unset =>
    refine .inl ⟨?_, rfl⟩
    simp only [Trace.still_append]
    exact ⟨⟨⟨s.aside_opening.still, still_setUp _ _ _ _ _⟩, Trace.still_speak _ _ _⟩, still_close _⟩
  | unannounced => exact .inl ⟨s.still_preface around socket _, rfl⟩
  | served hc => exact .inr ⟨_, hc, rfl⟩

theorem heeds_run (s : Server) (around : Surroundings) (socket : ServerSocket) :
    Heeds s.token.cancelled (s.run around socket).trace
      (s.run around socket).state.token.cancelled := by
  rcases s.still_or_served around socket with ⟨hstill, htoken⟩ | ⟨c, -, hrun⟩
  · rw [htoken]
    exact .of_still hstill _
  · rw [hrun]
    have hm := s.heeds_mainLoop socket c
    exact (((Heeds.of_still (s.still_preface around socket c) _).trans hm).trans
      (.of_still (still_shutDown _) _)).trans (.of_still (aside_farewell _).still _)

end Server

end SctpProbe
