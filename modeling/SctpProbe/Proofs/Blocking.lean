import SctpProbe.Proofs.Admitting
import SctpProbe.Proofs.Watch
set_option autoImplicit false

/-!
Peers that stay blocked. The calls of a run use up what a peer has to answer, answer by answer
(`Trace.Spends`). A peer stays blocked once its answers are used up to a stall while a part of the
last chunk that has come from it has not been taken back (`Trace.Blocked`). An echo takes for ever
only then (`echo_error`).
-/

namespace SctpProbe

open Network

namespace Network

variable {α : Type}

theorem Event.not_call_of_isStop {e : Event} (h : e.isStop = true) (id : SocketId) :
    e.isCall id = false := by
  cases e <;> simp_all [isStop, isCall]

namespace Trace

section

variable (id : SocketId)

def calls (t : Trace) : Nat := t.countP (Event.isCall id)

theorem calls_append (t u : Trace) : calls id (t ++ u) = calls id t + calls id u := by
  simp [calls]

theorem calls_speak (level : Log.Level) (speaker : Log.Speaker) (message : String) :
    calls id (speak level speaker message) = 0 := rfl

theorem calls_struck (t : Token) (i : Item α) (m : Moment) {e : Event} (he : e.isCall id = true) :
    calls id ((t.strike i m).1 ++ [e]) = 1 := by
  have hstops : calls id (t.strike i m).1 = 0 := by
    refine List.countP_eq_zero.2 fun x hx => ?_
    simp [Event.not_call_of_isStop (t.isStop_strike i m x hx)]
  rw [calls_append, hstops, Nat.zero_add, calls, List.countP_singleton, if_pos he]

@[simp] theorem calls_sent (t : Token) (i : Item α) (m : Moment) (bytes : List UInt8) :
    calls id ((t.strike i m).1 ++ [.sent id bytes]) = 1 :=
  calls_struck id t i m (by simp [Event.isCall])

@[simp] theorem calls_sendFailed (t : Token) (i : Item α) (m : Moment) (e : SystemError) :
    calls id ((t.strike i m).1 ++ [.sendFailed id e]) = 1 :=
  calls_struck id t i m (by simp [Event.isCall])

end

variable {id : SocketId} {t u : Trace} {sends later last : List Send} {n : Nat}

theorem sentOn_of_not_call (h : ∀ e ∈ t, e.isCall id = false) : t.sentOn id = [] := by
  refine List.flatMap_eq_nil_iff.2 fun e he => ?_
  have h0 := h e he
  cases e <;> simp_all [Event.isCall]

theorem sentOn_speak (id : SocketId) (level : Log.Level) (speaker : Log.Speaker)
    (message : String) : sentOn id (speak level speaker message) = [] := rfl

theorem sentOn_console (id : SocketId) (text : String) : sentOn id (console text) = [] := by
  refine sentOn_of_not_call fun e he => ?_
  obtain ⟨l, -, rfl⟩ := List.mem_map.1 he
  rfl

theorem sentOn_strike (t : Token) (i : Item α) (m : Moment) (id : SocketId) :
    sentOn id (t.strike i m).1 = [] :=
  sentOn_of_not_call fun e he => Event.not_call_of_isStop (t.isStop_strike i m e he) id

/-- What has come in last is a chunk over this connection, and it has not been taken back whole. -/
def Unsent (id : SocketId) (t : Trace) : Prop :=
  ∃ (before : Trace) (room count : Nat) (after : Trace),
    t = before ++ .received id room count :: after ∧ after.Calm ∧ (after.sentOn id).length < count

/-- The answers of a peer from `sends` down to `later` have been used. Each has been the answer to a
call, unless it is a stall. -/
def Spends (id : SocketId) (t : Trace) (sends later : List Send) : Prop :=
  ∃ used, sends = used ++ later ∧ used.countP (· ≠ .stall) ≤ t.calls id

/-- Fewer than `count` bytes are taken, and the answers are used up to a stall. -/
structure Stuck (id : SocketId) (sends : List Send) (count : Nat) (t : Trace) : Prop where
  part : (t.sentOn id).length < count
  spent : ∃ rest, t.Spends id sends (.stall :: rest)

/-- A peer has answered up to a stall, and it has not taken back what has come in last. -/
structure Blocked (id : SocketId) (sends : List Send) (t : Trace) : Prop where
  unsent : t.Unsent id
  spent : ∃ rest, t.Spends id sends (.stall :: rest)

theorem Unsent.prepend (h : u.Unsent id) (t : Trace) : (t ++ u).Unsent id := by
  obtain ⟨before, room, count, after, rfl, hcalm, hlt⟩ := h
  exact ⟨t ++ before, room, count, after, by simp, hcalm, hlt⟩

theorem Unsent.append (h : t.Unsent id) (hc : u.Calm) (hu : u.sentOn id = []) :
    (t ++ u).Unsent id := by
  obtain ⟨before, room, count, after, rfl, hcalm, hlt⟩ := h
  refine ⟨before, room, count, after ++ u, by simp, calm_append.2 ⟨hcalm, hc⟩, ?_⟩
  rwa [sentOn_append, hu, List.append_nil]

theorem Spends.refl (id : SocketId) (t : Trace) (sends : List Send) : t.Spends id sends sends :=
  ⟨[], rfl, by simp⟩

theorem Spends.trans (h : t.Spends id sends later) (k : u.Spends id later last) :
    (t ++ u).Spends id sends last := by
  obtain ⟨used, rfl, hle⟩ := h
  obtain ⟨more, rfl, hle'⟩ := k
  refine ⟨used ++ more, by simp, ?_⟩
  rw [List.countP_append, calls_append]
  exact Nat.add_le_add hle hle'

theorem Spends.append (h : t.Spends id sends later) (u : Trace) :
    (t ++ u).Spends id sends later :=
  h.trans (.refl id u later)

theorem Spends.prepend (h : u.Spends id sends later) (t : Trace) :
    (t ++ u).Spends id sends later :=
  (Spends.refl id t sends).trans h

theorem Spends.suffix (h : t.Spends id sends later) : later <:+ sends := by
  obtain ⟨used, rfl, -⟩ := h
  exact List.suffix_append _ _

theorem spends_stall (id : SocketId) (t : Trace) (rest : List Send) :
    t.Spends id (.stall :: rest) rest :=
  ⟨[.stall], rfl, by simp⟩

theorem spends_call {e : Event} (he : e.isCall id = true) (s : Send) (rest : List Send)
    (t : Trace) : (t ++ [e]).Spends id (s :: rest) rest := by
  refine ⟨[s], rfl, ?_⟩
  have hused : [s].countP (· ≠ .stall) ≤ 1 := List.countP_le_length
  have hcall : calls id [e] = 1 := by simp [calls, he]
  rw [calls_append, hcall]
  omega

theorem Spends.settle (h : t.Spends id sends later) (waiting : Bool) :
    t.Spends id sends (Stream.settle waiting later) := by
  unfold Stream.settle
  split
  · split
    · simpa using h.trans (spends_stall id [] _)
    · exact h
  · exact h

theorem Stuck.prepend (h : t.Stuck id sends n) (hu : u.sentOn id = []) :
    Trace.Stuck id sends n (u ++ t) := by
  obtain ⟨rest, hrest⟩ := h.spent
  refine ⟨?_, rest, hrest.prepend u⟩
  rw [sentOn_append, hu]
  exact h.part

theorem Stuck.blocked (h : t.Stuck id sends n) (hc : t.Calm) (room : Nat) :
    Trace.Blocked id sends (.received id room n :: t) := by
  obtain ⟨rest, hrest⟩ := h.spent
  exact ⟨⟨[], room, n, t, rfl, hc, h.part⟩, rest, hrest.prepend [_]⟩

theorem Blocked.after (h : t.Spends id sends later) (k : u.Blocked id later) :
    (t ++ u).Blocked id sends := by
  obtain ⟨rest, hrest⟩ := k.spent
  exact ⟨k.unsent.prepend t, rest, h.trans hrest⟩

theorem Blocked.prepend (h : u.Blocked id sends) (t : Trace) : (t ++ u).Blocked id sends :=
  .after (.refl id t sends) h

theorem Blocked.append (h : t.Blocked id sends) (hc : u.Calm) (hu : u.sentOn id = []) :
    (t ++ u).Blocked id sends := by
  obtain ⟨rest, hrest⟩ := h.spent
  exact ⟨h.unsent.append hc hu, rest, hrest.append u⟩

theorem Blocked.stall_mem (h : t.Blocked id sends) : .stall ∈ sends := by
  obtain ⟨rest, hrest⟩ := h.spent
  exact hrest.suffix.subset List.mem_cons_self

end Trace

end Network

namespace Stream

variable {id : SocketId} {item : Item (List UInt8)} {sends : List Send} {token : Token}
  {bytes : List UInt8}

theorem spends_transmit (id : SocketId) (item : Item (List UInt8)) (instant waiting : Bool)
    (sends : List Send) (token : Token) (bytes : List UInt8) :
    (transmit id item instant waiting sends token bytes).trace.Spends id sends
      (transmit id item instant waiting sends token bytes).sends := by
  have hsent : ∀ {piece}, (Event.sent id piece).isCall id = true := by simp [Event.isCall]
  have hfailed : ∀ {e}, (Event.sendFailed id e).isCall id = true := by simp [Event.isCall]
  induction sends generalizing waiting token bytes with
  | nil =>
    unfold transmit
    simp only
    split
    · exact .refl _ _ _
    · exact .refl _ _ _
  | cons s rest ih =>
    unfold transmit
    simp only
    split
    · exact (Trace.Spends.refl id [] (s :: rest)).settle true
    · cases s with
      | stall =>
        simp only
        split <;> exact Trace.spends_stall _ _ _
      | accept count =>
        simp only
        split
        · exact (Trace.spends_call hsent _ _ _).settle waiting
        · exact (Trace.spends_call hsent _ _ _).trans (ih ..)
      | block => exact (Trace.spends_call hfailed _ _ _).trans (ih ..)
      | fail e =>
        simp only
        split
        · exact (Trace.spends_call hfailed _ _ _).trans (ih ..)
        · exact (Trace.spends_call hfailed _ _ _).settle waiting

/-- A transmission without a limit goes on until a stall. -/
theorem stuck_transmit {waiting : Bool} (hb : bytes ≠ [])
    (h : (transmit id item false waiting sends token bytes).delivery = .stalled) :
    (transmit id item false waiting sends token bytes).trace.Stuck id sends bytes.length := by
  induction sends generalizing waiting token bytes with
  | nil => simp [transmit] at h
  | cons s rest ih =>
    have hpos := List.length_pos_iff.2 hb
    have hretry : ∀ {e s} {later : Trace}, later.Stuck id rest bytes.length →
        Trace.Stuck id (s :: rest) bytes.length
          ((token.strike item .send).1 ++ [.sendFailed id e] ++ later) := by
      intro e s later hlater
      obtain ⟨last, hlast⟩ := hlater.spent
      refine ⟨?_, last, (Trace.spends_call (by simp [Event.isCall]) _ _ _).trans hlast⟩
      simpa [Trace.sentOn_strike] using hlater.part
    unfold transmit at h ⊢
    simp only [Bool.false_and, Bool.false_eq_true, if_false] at h ⊢
    cases s with
    | stall =>
      simp only at h ⊢
      split
      · exact ⟨by simpa using hpos, rest, .refl _ _ _⟩
      · exact ⟨by simpa [Trace.sentOn_strike] using hpos, rest, .refl _ _ _⟩
    | accept count =>
      simp only at h ⊢
      split at h
      · simp at h
      · next hc =>
        rw [if_neg hc]
        have hlater := ih (by simpa [List.drop_eq_nil_iff] using hc) h
        obtain ⟨last, hlast⟩ := hlater.spent
        refine ⟨?_, last, (Trace.spends_call (by simp [Event.isCall]) _ _ _).trans hlast⟩
        have hpart := hlater.part
        simp only [Trace.sentOn_append, Trace.sentOn_strike, Trace.sentOn_sent, Trace.sentOn_nil,
          List.nil_append, List.append_nil, List.length_append, List.length_take,
          List.length_drop] at hpart ⊢
        omega
    | block => exact hretry (ih hb h)
    | fail e =>
      simp only at h ⊢
      split at h
      · next ht =>
        rw [if_pos ht]
        exact hretry (ih hb h)
      · simp at h

theorem calm_echo (sendTimeout : Value) (id : SocketId) (item : Item (List UInt8))
    (sends : List Send) (token : Token) (bytes : List UInt8) :
    (echo sendTimeout id item sends token bytes).trace.Calm := by
  have hcomposes : Composes fun _ u _ => Trace.Calm u :=
    ⟨fun _ => Trace.calm_nil, fun h k => Trace.calm_append.2 ⟨h, k⟩⟩
  refine composed_echo hcomposes _ _ _ (fun _ _ _ => Trace.calm_speak _ _ _) fun t e he => ?_
  refine Trace.calm_append.2 ⟨Trace.calm_stops (t.isStop_strike item .send), ?_⟩
  cases he <;> simp [Trace.Calm, Event.role, Role.calm]

theorem spends_echo (sendTimeout : Value) (id : SocketId) (item : Item (List UInt8))
    (sends : List Send) (token : Token) (bytes : List UInt8) :
    (echo sendTimeout id item sends token bytes).trace.Spends id sends
      (echo sendTimeout id item sends token bytes).sends := by
  have hsend := fun instant =>
    (spends_transmit id item instant false sends token bytes).prepend
      (Trace.speak .debug .stream "Echoing data back")
  unfold echo
  simp only
  repeat' split
  all_goals first | exact .refl _ _ _ | exact hsend _ | exact (hsend _).append _

/-- An echo ends in a fault if its timeout is one, or without a limit if its peer stalls. -/
theorem echo_error {sendTimeout : Value} {f : Fault} (hb : bytes ≠ [])
    (h : (echo sendTimeout id item sends token bytes).result = .error f) :
    Limit.ofValue sendTimeout = .error f ∨
      sendTimeout = .nothing ∧ f = .endless ∧
        (echo sendTimeout id item sends token bytes).trace.Stuck id sends bytes.length := by
  unfold echo at h ⊢
  simp only at h ⊢
  split at h
  · next hl =>
    rw [Except.error.injEq] at h
    exact .inl (h ▸ hl)
  · simp at h
  · next limit hlimit hl =>
    split at h
    · simp at h
    · simp at h
    · next hd =>
      split at h
      · next hn =>
        subst hn
        rw [Except.error.injEq] at h
        have hstuck := stuck_transmit hb (by simpa using hd)
        refine .inr ⟨Limit.ofValue_never hl, h.symm, ?_⟩
        rw [if_pos rfl]
        exact hstuck.prepend (Trace.sentOn_speak _ _ _ _)
      · simp at h

namespace Session

@[simp] theorem sends_polled (s : Session) : s.polled.endpoint.sends = s.endpoint.sends := by
  simp [polled, poll]

@[simp] theorem sends_called (s : Session) (item : Item (List UInt8)) :
    (s.called item).endpoint.sends = s.endpoint.sends := s.sends_polled

theorem spends_again {s next : Session} {trace : Trace} (h : s.turn = .again trace next) :
    trace.Spends s.endpoint.id s.endpoint.sends next.endpoint.sends := by
  cases step_again h with
  | idle => exact s.sends_polled ▸ .refl _ _ _
  | @again item _ _ _ _ hr =>
    rw [← s.sends_called item, ← s.id_called item]
    refine Trace.Spends.prepend ?_ _
    cases hr with
    | retried => exact .refl _ _ _
    | dumped => exact .refl _ _ _
    | echoed => exact (spends_echo _ _ _ _ _ _).prepend _

theorem blocked_report {s : Session} {bytes : List UInt8} {t : Trace}
    (h : t.Stuck s.endpoint.id sends (s.chunk bytes).length) (hc : t.Calm) :
    (s.report bytes ++ t).Blocked s.endpoint.id sends := by
  have hsent (line dump : String) :
      Trace.sentOn s.endpoint.id (Trace.speak .info .stream line ++ console dump) = [] := by
    rw [Trace.sentOn_append, Trace.sentOn_console]
    rfl
  have hreport : ∃ note : Trace, s.report bytes =
      .received s.endpoint.id s.context.room (s.chunk bytes).length :: note ∧
      note.Calm ∧ note.sentOn s.endpoint.id = [] :=
    ⟨_, rfl, Trace.calm_append.2 ⟨Trace.calm_speak _ _ _, Trace.calm_console _⟩, hsent _ _⟩
  obtain ⟨note, hnote, hcalm, hnone⟩ := hreport
  rw [hnote]
  exact (h.prepend hnone).blocked (Trace.calm_append.2 ⟨hcalm, hc⟩) s.context.room

/-- A chunk that cannot be sent back is a fault of the timeout, or the peer stays blocked. -/
theorem reply_error {s : Session} {bytes : List UInt8} {f : Fault} (hc : s.chunk bytes ≠ [])
    (h : (s.reply item bytes).result = .error f) :
    Limit.ofValue s.context.config.sendTimeout = .error f ∨
      s.context.config.sendTimeout = .nothing ∧ f = .endless ∧
        (s.report bytes ++ (s.reply item bytes).trace).Blocked s.endpoint.id s.endpoint.sends := by
  rcases echo_error hc h with hl | ⟨hn, hf, hstuck⟩
  · exact .inl hl
  · exact .inr ⟨hn, hf, blocked_report hstuck (calm_echo _ _ _ _ _ _)⟩

end Session

namespace Listener

/-- A peer who waits behind a listening socket is accepted and stays blocked. -/
def Blocked (s : Listener) (t : Trace) : Prop :=
  ∃ n c, s.endpoint.ahead[n]? = some c ∧
    t.Blocked (.connection (s.connections.length + n)) c.sends

theorem blocked_visit {s : Listener} {conn : Endpoint (List UInt8)} {peer : Option Peer}
    (h : s.accept.result = .ok (some (conn, peer))) (shown : String)
    (hb : (s.accept.state.session conn).trace.Blocked conn.id conn.sends) :
    s.Blocked (s.accept.trace ++ (console ("Connection from " ++ shown) ++
      (s.accept.state.serve conn shown).trace)) := by
  obtain ⟨c, hahead, rfl, -⟩ := first_of_accept h
  refine ⟨0, c, by rw [hahead]; rfl, ?_⟩
  rw [serve_eq]
  have hverdict : Trace.Calm (verdict (s.accept.state.session (s.fresh c)).result shown) ∧
      Trace.sentOn (s.fresh c).id (verdict (s.accept.state.session (s.fresh c)).result shown) =
        [] := by
    unfold verdict
    split
    · exact ⟨Trace.calm_speak _ _ _, rfl⟩
    · exact ⟨Trace.calm_nil, rfl⟩
  have hclosed : Trace.Calm [.closed (s.fresh c).id] := by simp [Trace.Calm, Event.role, Role.calm]
  exact (((hb.append hverdict.1 hverdict.2).append hclosed rfl).prepend _).prepend _

theorem Blocked.after {s : Listener} {ran : Ran Listener Bool} {t : Trace} (hr : Round s ran)
    (hok : ran.result = .ok true) (h : ran.state.Blocked t) : s.Blocked (ran.trace ++ t) := by
  obtain ⟨hahead, hlength⟩ := ahead_round hr hok
  obtain ⟨n, c, hc, hb⟩ := h
  rw [hahead, List.getElem?_drop] at hc
  rw [hlength, Nat.add_assoc] at hb
  exact ⟨_, c, hc, hb.prepend _⟩

end Listener

end Stream

end SctpProbe
