import SctpProbe.Proofs.Accepting
import SctpProbe.Proofs.Turns.Service
set_option autoImplicit false

/-!
What becomes of the connections of a listening socket. A round closes the connection it has accepted
if that could be made non-blocking and its peer can be told, and leaves it open otherwise; nothing
else is closed. `Ledger` says so of any part of a trace, and ledgers of parts that follow each other
make up one of the whole.
-/

namespace SctpProbe

open Network

namespace Network.Trace

def unblocks (t : Trace) (s : SocketId) : Bool :=
  t.any fun
    | .unblocked q none => q == s
    | _ => false

/-- Every connection accepted is closed once if it was made non-blocking and its peer can be told,
and is left open otherwise; nothing but accepted connections is closed. -/
def Settled (t : Trace) : Prop :=
  (∀ l c sender, .accepted l c sender ∈ t →
    t.closings c = if t.unblocks c && Peer.renders sender then 1 else 0) ∧
  ∀ q, t.closings q ≠ 0 → ∃ l sender, .accepted l q sender ∈ t

def AllClosed (t : Trace) : Prop := ∀ l c sender, .accepted l c sender ∈ t → t.closings c = 1

def Among (n m : Nat) (q : SocketId) : Prop := ∃ k, n ≤ k ∧ k < m ∧ q = .connection k

theorem Among.grow {n m n' m' : Nat} {q : SocketId} (h : Among n m q) (hn : n' ≤ n) (hm : m ≤ m') :
    Among n' m' q := by
  obtain ⟨k, h1, h2, rfl⟩ := h
  exact ⟨k, by omega, by omega, rfl⟩

theorem Among.apart {n m p : Nat} {q : SocketId} (h : Among n m q) : ¬ Among m p q := by
  rintro ⟨k, h1, h2, rfl⟩
  obtain ⟨k', h3, h4, he⟩ := h
  cases he
  omega

@[simp] theorem unblocks_append (t u : Trace) (q : SocketId) :
    (t ++ u).unblocks q = (t.unblocks q || u.unblocks q) := by
  simp [unblocks]

theorem unblocks_of_onlyOn {id : SocketId} {t : Trace} (h : OnlyOn id t) (q : SocketId) :
    t.unblocks q = false := by
  unfold unblocks
  rw [List.any_eq_false]
  intro e he
  have h0 := h e he
  cases e <;> simp_all [Event.onlyOn]

@[simp] theorem sockets_append (t u : Trace) : (t ++ u).sockets = t.sockets ++ u.sockets := by
  simp [sockets]

theorem sockets_of_onlyOn {id : SocketId} {t : Trace} (h : OnlyOn id t) : t.sockets = [] := by
  unfold sockets
  rw [List.filterMap_eq_nil_iff]
  intro e he
  have h0 := h e he
  cases e <;> simp_all [Event.onlyOn]

theorem not_accepted_of_onlyOn {id l c : SocketId} {sender : Value} {t : Trace} (h : OnlyOn id t) :
    .accepted l c sender ∉ t := by
  intro hm
  have h0 := h _ hm
  simp [Event.onlyOn] at h0

/-- The account of a part of a trace in which the connections from `n` up to `m` were accepted. -/
structure Ledger (n m : Nat) (t : Trace) : Prop where
  le : n ≤ m
  sockets : ∀ q ∈ t.sockets, Among n m q
  unblocked : ∀ q, t.unblocks q = true → Among n m q
  settled : t.Settled

namespace Ledger

variable {n m p : Nat} {t u : Trace}

theorem accepted (h : Ledger n m t) {l c : SocketId} {sender : Value}
    (ha : .accepted l c sender ∈ t) : Among n m c :=
  h.sockets c (List.mem_filterMap.2 ⟨_, ha, rfl⟩)

theorem closings (h : Ledger n m t) {q : SocketId} (hq : ¬ Among n m q) : t.closings q = 0 := by
  refine Decidable.byContradiction fun h0 => ?_
  obtain ⟨l, sender, ha⟩ := h.settled.2 q h0
  exact hq (h.accepted ha)

theorem unblocks (h : Ledger n m t) {q : SocketId} (hq : ¬ Among n m q) : t.unblocks q = false := by
  cases h0 : t.unblocks q with
  | false => rfl
  | true => exact absurd (h.unblocked q h0) hq

theorem append (h : Ledger n m t) (k : Ledger m p u) : Ledger n p (t ++ u) := by
  refine ⟨Nat.le_trans h.le k.le, ?_, ?_, ?_, ?_⟩
  · intro q hq
    rw [sockets_append, List.mem_append] at hq
    rcases hq with hq | hq
    · exact (h.sockets q hq).grow (Nat.le_refl _) k.le
    · exact (k.sockets q hq).grow h.le (Nat.le_refl _)
  · intro q hq
    rw [unblocks_append, Bool.or_eq_true] at hq
    rcases hq with hq | hq
    · exact (h.unblocked q hq).grow (Nat.le_refl _) k.le
    · exact (k.unblocked q hq).grow h.le (Nat.le_refl _)
  · intro l c sender ha
    rw [closings_append, unblocks_append]
    rcases List.mem_append.1 ha with ha | ha
    · have hc := (h.accepted ha).apart (p := p)
      rw [k.closings hc, k.unblocks hc, Nat.add_zero, Bool.or_false]
      exact h.settled.1 l c sender ha
    · have hc : ¬ Among n m c := fun hc => hc.apart (k.accepted ha)
      rw [h.closings hc, h.unblocks hc, Nat.zero_add, Bool.false_or]
      exact k.settled.1 l c sender ha
  · intro q hq
    rw [closings_append] at hq
    by_cases h0 : t.closings q = 0
    · obtain ⟨l, sender, ha⟩ := k.settled.2 q (by omega)
      exact ⟨l, sender, List.mem_append_right _ ha⟩
    · obtain ⟨l, sender, ha⟩ := h.settled.2 q h0
      exact ⟨l, sender, List.mem_append_left _ ha⟩

theorem allClosed_append (h : Ledger n m t) (k : Ledger m p u) (ht : t.AllClosed)
    (hu : u.AllClosed) :
    (t ++ u).AllClosed := by
  intro l c sender ha
  rw [closings_append]
  rcases List.mem_append.1 ha with ha | ha
  · rw [ht l c sender ha, k.closings (h.accepted ha).apart]
  · have hc : ¬ Among n m c := fun hc => hc.apart (k.accepted ha)
    rw [hu l c sender ha, h.closings hc]

theorem allClosed_of_closed (h : Ledger n (n + 1) t) (hc : t.closings (.connection n) ≠ 0) :
    t.AllClosed := by
  intro l c sender ha
  obtain ⟨k, h1, h2, rfl⟩ := h.accepted ha
  obtain rfl : k = n := by omega
  have hs := h.settled.1 l _ sender ha
  rw [hs] at hc ⊢
  split at hc
  · next hk => rw [if_pos hk]
  · exact absurd rfl hc

theorem of_onlyOn {id : SocketId} (n : Nat) (h : OnlyOn id t) : Ledger n n t := by
  refine ⟨Nat.le_refl _, ?_, ?_, ?_, ?_⟩
  · intro q hq
    rw [sockets_of_onlyOn h] at hq
    simp at hq
  · intro q hq
    rw [unblocks_of_onlyOn h] at hq
    simp at hq
  · intro l c sender ha
    exact absurd ha (not_accepted_of_onlyOn h)
  · intro q hq
    exact absurd (closings_of_onlyOn h q) hq

theorem of_connection {id l : SocketId} (sender : Value) (failure? : Option SystemError)
    (h : OnlyOn id t) :
    Ledger n (n + 1) ([.accepted l (.connection n) sender,
      .unblocked (.connection n) failure?] ++ t ++
      if failure?.isNone && Peer.renders sender then [.closed (.connection n)] else []) := by
  have hn : Among n (n + 1) (.connection n) := ⟨n, Nat.le_refl _, Nat.lt_succ_self _, rfl⟩
  have hc := closings_of_onlyOn h
  have hu := unblocks_of_onlyOn h
  have ha : ∀ l c sender, .accepted l c sender ∉ t := fun l c sender => not_accepted_of_onlyOn h
  refine ⟨Nat.le_succ n, ?_, ?_, ?_, ?_⟩
  · intro q hq
    have : q = .connection n := by
      rw [sockets_append, sockets_append, sockets_of_onlyOn h] at hq
      split at hq <;> simp_all [Trace.sockets]
    rw [this]
    exact hn
  · intro q hq
    have : q = .connection n := by
      rw [unblocks_append, unblocks_append, hu] at hq
      split at hq <;> cases failure? <;> simp_all [Trace.unblocks]
    rw [this]
    exact hn
  · intro l' c s hm
    have he : c = .connection n ∧ s = sender := by
      split at hm <;> simp_all
    rw [he.1, he.2]
    simp only [closings_append, unblocks_append, hc, hu]
    cases failure? <;> split <;> simp_all [Trace.closings, Trace.unblocks]
  · intro q hq
    refine ⟨l, sender, ?_⟩
    have : q = .connection n := by
      simp only [closings_append, hc] at hq
      split at hq <;> simp_all [Trace.closings]
    simp [this]

end Ledger

end Network.Trace

namespace Stream.Listener

open Trace (onlyOn_append onlyOn_singleton onlyOn_speak onlyOn_console Ledger)

theorem handover_ne_none (s : Listener) (c : Connection) : s.handover c ≠ .ok none := by
  unfold handover
  split
  · simp
  · cases Peer.ofSocketAddress c.sender <;> simp [Except.map]

theorem kept_of_handover_error {s : Listener} {c : Connection} {f : Fault}
    (h : s.handover c = .error f) : (c.unblocking?.isNone && Peer.renders c.sender) = false := by
  unfold handover at h
  split at h
  · next hu => simp [hu]
  · cases hp : Peer.ofSocketAddress c.sender with
    | error f => simp [Peer.renders, Peer.display, hp, bind, Except.bind, Except.isOk,
        Except.toBool]
    | ok peer => simp [hp, Except.map] at h

theorem kept_of_handover_ok {s : Listener} {c : Connection} {conn : Endpoint (List UInt8)}
    {peer : Option Peer} (h : s.handover c = .ok (some (conn, peer))) :
    conn = s.fresh c ∧
      (c.unblocking?.isNone && Peer.renders c.sender) = (Peer.shownOrUnknown peer).isOk := by
  obtain ⟨hu, hc, hp⟩ := of_handover_ok h
  refine ⟨hc, ?_⟩
  simp [hu, Peer.renders, Peer.display, hp, bind, Except.bind]

theorem onlyOn_verdict (id : SocketId) (result : Except Fault Bool) (shown : String) :
    Trace.OnlyOn id (verdict result shown) := by
  unfold verdict
  split
  · exact onlyOn_speak _ _ _
  · exact Trace.onlyOn_nil

@[simp] theorem length_served (s : Listener) (conn : Endpoint (List UInt8)) :
    (s.served conn).connections.length = s.connections.length := by
  simp [served, leave]

@[simp] theorem length_adopted (s : Listener) (c : Connection) :
    (s.adopted c).connections.length = s.connections.length + 1 := by
  simp [adopted]

theorem ledger_arrival (s : Listener) (c : Connection) {id : SocketId} {t : Trace}
    (h : t.OnlyOn id) :
    Ledger s.connections.length (s.connections.length + 1) (s.arrival c ++ t ++
      if c.unblocking?.isNone && Peer.renders c.sender then [.closed s.nextId] else []) :=
  .of_connection c.sender c.unblocking? h

theorem ledger_arrival_open (s : Listener) (c : Connection) {id : SocketId} {t : Trace}
    (h : t.OnlyOn id) (hk : (c.unblocking?.isNone && Peer.renders c.sender) = false) :
    Ledger s.connections.length (s.connections.length + 1) (s.arrival c ++ t) := by
  have hl := s.ledger_arrival c h
  rw [hk] at hl
  simpa using hl

theorem ledger_serve (s : Listener) (c : Connection) (shown : String)
    (hk : (c.unblocking?.isNone && Peer.renders c.sender) = true) :
    Ledger s.connections.length (s.connections.length + 1) (s.arrival c ++
      (((s.adopted c).serve (s.fresh c) shown).after
      (console ("Connection from " ++ shown))).trace) := by
  have hs := (Session.frame_run ⟨(s.adopted c).token, s.fresh c, (s.adopted c).context⟩).trace
  have hv := onlyOn_verdict s.nextId ((s.adopted c).session (s.fresh c)).result shown
  have hl := s.ledger_arrival c
    (onlyOn_append.2 ⟨onlyOn_append.2 ⟨onlyOn_console ("Connection from " ++ shown), hs⟩, hv⟩)
  rw [hk] at hl
  rw [serve_eq]
  simpa [Ran.after, session, fresh] using hl

theorem ledger_round {s : Listener} {ran : Ran Listener Bool} (h : Round s ran) :
    Ledger s.connections.length ran.state.connections.length ran.trace := by
  have ha := s.accepting
  generalize he : s.accept = accepted at ha
  cases ha with
  | @without trace last result q hw =>
    have hq := Ledger.of_onlyOn s.connections.length q.trace
    cases h with
    | stopped hr =>
      simp only [he, q.connections]
      exact hq
    | failed hr =>
      simp only [he, q.connections]
      exact .of_onlyOn _ (onlyOn_append.2 ⟨q.trace, onlyOn_speak _ _ _⟩)
    | faulted hr hf =>
      simp only [he, q.connections]
      exact hq
    | unshown hr hp => rw [he] at hr; exact absurd hr (hw _)
    | served hr hp => rw [he] at hr; exact absurd hr (hw _)
  | @connected trace last item c q hi hd =>
    have hq := Ledger.of_onlyOn s.connections.length q.trace
    have hl : last.connections.length = s.connections.length := by rw [q.connections]
    have hopen := fun (t : Trace) (ht : t.OnlyOn last.nextId)
      (hk : (c.unblocking?.isNone && Peer.renders c.sender) = false) =>
        last.ledger_arrival_open c ht hk
    cases h with
    | stopped hr =>
      rw [he] at hr
      exact absurd hr (last.handover_ne_none c)
    | @failed e hr =>
      rw [he] at hr
      have ho := hopen _ (onlyOn_speak .error .stream ("Error in accept(): " ++ e.message))
        (kept_of_handover_error hr)
      simp only [he, length_adopted, hl] at ho ⊢
      simpa using hq.append ho
    | faulted hr hf =>
      rw [he] at hr
      have ho := hopen [] Trace.onlyOn_nil (kept_of_handover_error hr)
      simp only [he, length_adopted, hl] at ho ⊢
      simpa using hq.append ho
    | unshown hr hp =>
      rw [he] at hr
      have hk := (kept_of_handover_ok hr).2
      rw [hp] at hk
      have ho := hopen [] Trace.onlyOn_nil hk
      simp only [he, length_adopted, hl] at ho ⊢
      simpa using hq.append ho
    | @served conn peer shown hr hp =>
      rw [he] at hr
      obtain ⟨rfl, hk⟩ := kept_of_handover_ok hr
      rw [hp] at hk
      have hs := last.ledger_serve c shown hk
      simp only [hl] at hs
      simp only [he, Ran.trace_after, Ran.state_after, List.append_assoc] at hs ⊢
      have hn : ((last.adopted c).serve (last.fresh c) shown).state.connections.length =
          s.connections.length + 1 := by
        rw [serve_eq, length_served, length_adopted, hl]
      rw [hn]
      exact hq.append hs

theorem allClosed_of_onlyOn {id : SocketId} {t : Trace} (h : t.OnlyOn id) : t.AllClosed :=
  fun _ _ _ ha => absurd ha (Trace.not_accepted_of_onlyOn h)

/-- A round that ends well has closed the connection that it has accepted, if there was one. -/
theorem allClosed_round {s : Listener} {ran : Ran Listener Bool} (h : Round s ran)
    (hr : ran.result = .ok true) : ran.trace.AllClosed := by
  have hl := ledger_round h
  have ha := s.accepting
  generalize he : s.accept = accepted at ha
  cases h with
  | stopped hn =>
    cases ha with
    | without q hw =>
      simp only [he]
      exact allClosed_of_onlyOn q.trace
    | @connected trace last item c q hi hd =>
      rw [he] at hn
      exact absurd hn (last.handover_ne_none c)
  | failed hn => simp at hr
  | faulted hn hf => simp at hr
  | unshown hn hp => simp at hr
  | @served conn peer shown hn hp =>
    cases ha with
    | without q hw =>
      rw [he] at hn
      exact absurd hn (hw _)
    | @connected trace last item c q hi hd =>
      rw [he] at hn
      obtain ⟨-, rfl, -⟩ := of_handover_ok hn
      have hlen : (((s.accept.state.serve (last.fresh c) shown).after
          (console ("Connection from " ++ shown))).after s.accept.trace).state.connections.length =
          s.connections.length + 1 := by
        simp only [Ran.state_after, he]
        rw [serve_eq, length_served, length_adopted, q.connections]
      rw [hlen] at hl
      refine hl.allClosed_of_closed ?_
      have hone : Trace.closings (.connection s.connections.length)
          [.closed (last.fresh c).id] = 1 := by
        simp [Trace.closings, fresh, nextId, q.connections]
      simp only [Ran.trace_after, serve_eq, Trace.closings_append, hone]
      omega

/-- Servicing keeps an account of all connections, and closes them all if it ends well. -/
structure Accounted (s : Listener) (ran : Ran Listener Bool) : Prop where
  ledger : Ledger s.connections.length ran.state.connections.length ran.trace
  closed : ran.result = .ok true → ran.trace.AllClosed

theorem accounted_round {s : Listener} {ran : Ran Listener Bool} (h : Round s ran) :
    Accounted s ran :=
  ⟨ledger_round h, allClosed_round h⟩

theorem accounted_service (s : Listener) : Accounted s s.service := by
  refine service_induction Accounted ?_ ?_ ?_ s
  · intro s h
    have hn := @Trace.onlyOn_nil s.endpoint.id
    exact ⟨.of_onlyOn _ hn, fun _ => allClosed_of_onlyOn hn⟩
  · intro s h hr
    exact accounted_round s.rounding
  · intro s ran h hr ih
    have hround := accounted_round s.rounding
    refine ⟨hround.ledger.append ih.ledger, fun ht => ?_⟩
    exact hround.ledger.allClosed_append ih.ledger (hround.closed hr) (ih.closed ht)

theorem lasting_service (s : Listener) : Lasting s s.service.state := by
  refine service_induction (fun s ran => Lasting s ran.state) ?_ ?_ ?_ s
  · intro s h
    exact .refl s
  · intro s h hr
    exact lasting_round s.rounding
  · intro s ran h hr ih
    exact (lasting_round s.rounding).trans ih

/-- Connections are closed once, in the round that has accepted them, unless they cannot be made
non-blocking or their peer cannot be told. -/
theorem connections_settled (s : Listener) : s.runOnce.trace.Settled ∧ s.service.trace.Settled :=
  ⟨(ledger_round s.rounding).settled, s.accounted_service.ledger.settled⟩

def awaiting (c : Connection) : Listener where
  token := Token.fresh
  endpoint := ⟨.server 0, [.delivering c], [], false⟩
  connections := []
  context := ⟨.usual, some (.server 0), [0, 0], .bool false, .bool false⟩

/-- A connection that cannot be made non-blocking stays open. -/
theorem open_of_blocking : ¬ ∀ s : Listener, ∀ c ∈ s.runOnce.trace.sockets,
    s.runOnce.trace.closings c = 1 := by
  intro h
  have h0 := h (awaiting ⟨.tuple [.text "192.0.2.10", .int 36412], [], [], some .bare⟩)
    (.connection 0)
    (by decide +kernel)
  exact absurd h0 (by decide +kernel)

end Stream.Listener

end SctpProbe
