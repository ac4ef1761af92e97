import SctpProbe.Proofs.Admitting
import SctpProbe.Proofs.Alike
import SctpProbe.Proofs.Origins
import SctpProbe.Proofs.Stopping
set_option autoImplicit false

/-!
Isolation of sessions. What a run shows of a connection between its greeting and its end goes by the
settings of the server and by what is sent over that connection, and by nothing that any connection
before it has brought (`Server.sessions_isolated`).
-/

namespace SctpProbe

open Network

namespace Stream.Listener

/-- What a session tells comes from the script of its connection. -/
theorem from_talk (s : Listener) (conn : Endpoint (List UInt8)) (shown : String) :
    (s.talk conn shown).From (Delivers conn.script) := by
  refine Trace.from_append.2 ⟨Session.from_run ⟨s.token, conn, s.context⟩, ?_⟩
  unfold verdict
  split
  · exact Trace.from_speak _ _ _
  · exact Trace.from_nil

theorem talk_of_alike {s s' : Listener} {conn conn' : Endpoint (List UInt8)}
    (h : Session.Alike conn'.id ⟨s.token, conn, s.context⟩ ⟨s'.token, conn', s'.context⟩)
    (shown : String) : s'.talk conn' shown = (s.talk conn shown).on conn'.id := by
  have hrun := Session.run_matches h
  have hresult : (s'.session conn').result = (s.session conn).result := hrun.result
  have htrace : (s'.session conn').trace = (s.session conn).trace.on conn'.id := hrun.trace
  rw [talk, talk, Trace.on_append, hresult, htrace, Trace.on_of_onlyOn (onlyOn_verdict _ _ _)]

/-- What a round shows behind its accepting. -/
inductive Behind (s : Listener) : Ran Listener Bool → Trace → Prop
  | nothing {ran : Ran Listener Bool} {t : Trace} (ht : t.OnlyOn s.endpoint.id)
    (hn : ∀ conn peer shown, s.accept.result = .ok (some (conn, peer)) →
      Peer.shownOrUnknown peer ≠ .ok shown) : Behind s ran t
  | visit {ran : Ran Listener Bool} {conn : Endpoint (List UInt8)} {peer : Option Peer}
    {shown : String} (h : s.accept.result = .ok (some (conn, peer)))
    (hp : Peer.shownOrUnknown peer = .ok shown) (hs : ran.state = s.accept.state.served conn) :
    Behind s ran (console ("Connection from " ++ shown) ++ s.accept.state.talk conn shown ++
      [.closed conn.id])

theorem behind_round {s : Listener} {ran : Ran Listener Bool} (hr : Round s ran) :
    ∃ t, ran.trace = s.accept.trace ++ t ∧ Behind s ran t := by
  cases hr with
  | stopped h => exact ⟨[], by simp, .nothing Trace.onlyOn_nil (by simp [h])⟩
  | failed h => exact ⟨_, rfl, .nothing (Trace.onlyOn_speak _ _ _) (by simp [h])⟩
  | faulted h => exact ⟨[], by simp, .nothing Trace.onlyOn_nil (by simp [h])⟩
  | unshown h hp =>
    refine ⟨[], by simp, .nothing Trace.onlyOn_nil ?_⟩
    intro conn peer shown h' hp'
    rw [h, Except.ok.injEq, Option.some.injEq, Prod.mk.injEq] at h'
    rw [← h'.2, hp] at hp'
    simp at hp'
  | served h hp =>
    refine ⟨_, ?_, .visit h hp ?_⟩
    · simp only [Ran.trace_after, serve_eq, talk, List.append_assoc]
    · simp only [Ran.state_after, serve_eq]

theorem accepts_of_behind {s : Listener} {ran : Ran Listener Bool} {t : Trace}
    (h : Behind s ran t) : t.countP Event.isAccept = 0 := by
  cases h with
  | nothing ht => exact accepts_of_onlyOn ht
  | visit =>
    simp [accepts_console, accepts_of_onlyOn (onlyOn_talk _ _ _), Event.isAccept]

structure Guest (s : Listener) (before : Trace) (q : SocketId) (rest : Trace) (c : Connection)
    (host : Listener) : Prop where
  ahead : s.endpoint.ahead[before.countP Event.isAccept]? = some c
  id : q = .connection (s.connections.length + before.countP Event.isAccept)
  context : s.context.Kept host.context
  cancelled : host.token.cancelled = (s.token.cancelled || before.any Event.isStop)
  unblocked : ∃ tail, rest = .unblocked q c.unblocking? :: tail ∧
    ∀ shown, c.unblocking? = none → Peer.display c.sender = .ok shown →
      ∃ after, tail = console ("Connection from " ++ shown) ++
        host.talk ⟨q, c.script, c.sends, false⟩ shown ++ .closed q :: after

theorem Guest.append {s host : Listener} {before rest : Trace} {q : SocketId} {c : Connection}
    (h : Guest s before q rest c host) (u : Trace) : Guest s before q (rest ++ u) c host := by
  obtain ⟨tail, rfl, hv⟩ := h.unblocked
  refine ⟨h.ahead, h.id, h.context, h.cancelled, tail ++ u, rfl, fun shown hu hd => ?_⟩
  obtain ⟨after, rfl⟩ := hv shown hu hd
  exact ⟨after ++ u, by simp⟩

theorem not_accepted_of_accepts {t : Trace} (h : t.countP Event.isAccept = 0) {l q : SocketId}
    {v : Value} : .accepted l q v ∉ t :=
  fun hm => absurd (List.countP_eq_zero.1 h _ hm) (by simp [Event.isAccept])

theorem sole_arrival {t u before rest : Trace} {l l' q q' : SocketId} {v v' : Value}
    (ht : t.countP Event.isAccept = 0) (hu : u.countP Event.isAccept = 0)
    (h : t ++ .accepted l' q' v' :: u = before ++ .accepted l q v :: rest) :
    before = t ∧ q = q' ∧ rest = u := by
  rcases Trace.split_append h with ⟨a, rfl, -⟩ | ⟨b, rfl, hb⟩
  · exact (not_accepted_of_accepts (l := l) (q := q) (v := v) ht (by simp)).elim
  · cases b with
    | nil =>
      obtain ⟨he, rfl⟩ := List.cons.inj hb
      cases he
      exact ⟨by simp, rfl, rfl⟩
    | cons x b =>
      obtain ⟨-, rfl⟩ := List.cons.inj hb
      exact (not_accepted_of_accepts (l := l) (q := q) (v := v) hu (by simp)).elim

theorem display_ok {v : Value} {shown : String} (h : Peer.display v = .ok shown) :
    ∃ peer, Peer.ofSocketAddress v = .ok peer ∧ Peer.shownOrUnknown peer = .ok shown := by
  unfold Peer.display at h
  cases hp : Peer.ofSocketAddress v with
  | error f => simp [hp, bind, Except.bind] at h
  | ok peer => exact ⟨peer, rfl, by simpa [hp, bind, Except.bind] using h⟩

theorem guest_round {s : Listener} {ran : Ran Listener Bool} (hr : Round s ran)
    {before rest : Trace} {l q : SocketId} {v : Value}
    (ht : ran.trace = before ++ .accepted l q v :: rest) :
    ∃ c host, Guest s before q rest c host := by
  obtain ⟨t, htrace, hbehind⟩ := behind_round hr
  have hnone := accepts_of_behind hbehind
  have hheeds := s.heeds_accept.cancelled
  have ha := s.admission
  rw [htrace] at ht
  generalize he : s.accept = accepted at ha
  cases ha with
  | @without trace last result quiet _ _ =>
    have hcount : (s.accept.trace ++ t).countP Event.isAccept = 0 := by
      simp [he, accepts_of_onlyOn quiet.trace, hnone]
    have hmem : .accepted l q v ∈ before ++ .accepted l q v :: rest := by simp
    exact absurd (ht ▸ hmem) (not_accepted_of_accepts hcount)
  | @admitted trace last c quiet hahead =>
    have hquiet := accepts_of_onlyOn quiet.trace
    have harrival : trace ++ .accepted last.endpoint.id last.nextId c.sender ::
        (.unblocked last.nextId c.unblocking? :: t) = before ++ .accepted l q v :: rest := by
      rw [← ht, he]
      simp [arrival]
    obtain ⟨rfl, rfl, rfl⟩ := sole_arrival hquiet (by simp [hnone, Event.isAccept]) harrival
    refine ⟨c, s.accept.state, ?_, ?_, s.lasting_accept.context, ?_, t, rfl,
      fun shown hu hd => ?_⟩
    · rw [hquiet, hahead]
      rfl
    · rw [hquiet, nextId, quiet.connections, Nat.add_zero]
    · rw [hheeds, he]
      simp [arrival, Event.isStop]
    · obtain ⟨peer, hp, hshown⟩ := display_ok hd
      have hresult : s.accept.result = .ok (some (last.fresh c, peer)) := by
        rw [he]
        simp [handover, hu, hp, Except.map]
      cases hbehind with
      | nothing _ hn => exact absurd hshown (hn _ _ _ hresult)
      | visit h hp' =>
        rw [hresult, Except.ok.injEq, Option.some.injEq, Prod.mk.injEq] at h
        obtain ⟨rfl, rfl⟩ := h
        rw [hshown, Except.ok.injEq] at hp'
        subst hp'
        exact ⟨[], rfl⟩

theorem guest_service (s : Listener) : ∀ (before rest : Trace) (l q : SocketId) (v : Value),
    s.service.trace = before ++ .accepted l q v :: rest →
      ∃ c host, Guest s before q rest c host := by
  refine service_induction (fun s ran => ∀ (before rest : Trace) (l q : SocketId) (v : Value),
    ran.trace = before ++ .accepted l q v :: rest → ∃ c host, Guest s before q rest c host)
    ?_ ?_ ?_ s
  · intro s _ before rest l q v ht
    simp at ht
  · intro s _ _ before rest l q v ht
    exact guest_round s.rounding ht
  · intro s ran _ hr ih before rest l q v ht
    obtain ⟨hahead, hlength⟩ := ahead_round s.rounding hr
    have hheeds := (heeds_round s.rounding).cancelled
    rcases Trace.split_append ht with ⟨a, ha, rfl⟩ | ⟨b, rfl, hb⟩
    · obtain ⟨c, host, h⟩ := guest_round s.rounding ha
      exact ⟨c, host, h.append ran.trace⟩
    · obtain ⟨c, host, h⟩ := ih b rest l q v hb
      refine ⟨c, host, ?_, ?_, (lasting_round s.rounding).context.trans h.context, ?_,
        h.unblocked⟩
      · have hc := h.ahead
        rw [hahead, List.getElem?_drop] at hc
        rwa [List.countP_append]
      · rw [h.id, hlength, List.countP_append, Nat.add_assoc]
      · rw [h.cancelled, hheeds, List.any_append, Bool.or_assoc]

theorem Guest.prepend {s host : Listener} {t before rest : Trace} {q : SocketId} {c : Connection}
    (h : Guest s before q rest c host) (ht : t.Still) : Guest s (t ++ before) q rest c host := by
  have hcount : t.countP Event.isAccept = 0 := by
    refine List.countP_eq_zero.2 fun e he => ?_
    have h0 := ht e he
    cases e <;> simp_all [Event.role, Role.still, Event.isAccept]
  have hstop : t.any Event.isStop = false := List.any_eq_false.2 fun e he => by
    simp [ht.not_stop e he]
  refine ⟨?_, ?_, h.context, ?_, h.unblocked⟩
  · rw [List.countP_append, hcount, Nat.zero_add]
    exact h.ahead
  · rw [List.countP_append, hcount, Nat.zero_add]
    exact h.id
  · rw [List.any_append, hstop, Bool.false_or]
    exact h.cancelled

end Stream.Listener

/-- The `n`-th connection of a trace arrives before anybody has asked to stop, and `rest` is what is
shown once it has been made non-blocking. -/
def Network.Trace.Arrives (t : Trace) (n : Nat) (q : SocketId) (rest : Trace) : Prop :=
  ∃ (before : Trace) (l : SocketId) (v : Value),
    t = before ++ .accepted l q v :: .unblocked q none :: rest ∧
    before.countP Event.isAccept = n ∧ before.any Event.isStop = false

namespace Server

open Stream.Listener (Guest)

theorem guest_run {s : Server} {around : Surroundings} {socket : ServerSocket}
    {before rest : Trace} {l q : SocketId} {v : Value}
    (ht : (s.run around socket).trace = before ++ .accepted l q v :: rest) :
    s.token.cancelled = false ∧ ∃ d c host, Context.ofConfig s.config = .ok d ∧
      Guest (s.front socket d) before q rest c host := by
  have hmem : .accepted l q v ∈ (s.run around socket).trace := by simp [ht]
  obtain ⟨d, hd, hrun⟩ := (s.still_or_served around socket).resolve_left fun h =>
    h.1.not_accepted _ _ _ hmem
  rw [hrun] at ht
  have hpreface := s.still_preface around socket d
  have hend := still_ending (s.mainLoop socket d).state (s.mainLoop socket d).result
  rw [List.append_assoc] at ht
  obtain ⟨b, a, hmain, rfl, rfl⟩ := Trace.split_middle ht (hpreface.not_accepted _ _ _)
    (hend.not_accepted _ _ _)
  have hawake : s.token.cancelled = false := Bool.eq_false_iff.2 fun hc => by
    rw [mainLoop_of_cancelled hc] at hmain
    simp at hmain
  refine ⟨hawake, ?_⟩
  unfold mainLoop serve at hmain
  split at hmain
  · obtain ⟨c, host, h⟩ := (s.front socket d).guest_service b a l q v hmain
    exact ⟨d, c, host, hd, (h.append _).prepend hpreface⟩
  · have hframe := Messaging.Mailbox.frame_service
      ((s.up socket d).mailbox s.socketId socket (s.prepared socket d).2)
    have hshown : .accepted l q v ∈ b ++ .accepted l q v :: a := by simp
    exact absurd (hmain ▸ hshown) (Trace.not_accepted_of_onlyOn hframe.trace)

/-- Connections with the same before them have sessions that are alike, whichever runs of servers
with the same configuration they belong to. -/
theorem alike_of_guest {s s' : Server} {socket socket' : ServerSocket} {d : Context}
    {before before' rest rest' : Trace} {q q' : SocketId} {c c' : Connection}
    {host host' : Stream.Listener}
    (h : Guest (s.front socket d) before q rest c host)
    (h' : Guest (s'.front socket' d) before' q' rest' c' host')
    (hscript : c'.script = c.script) (hsends : c'.sends = c.sends)
    (hcancelled : host'.token.cancelled = host.token.cancelled) :
    Stream.Session.Alike q' ⟨host.token, ⟨q, c.script, c.sends, false⟩, host.context⟩
      ⟨host'.token, ⟨q', c'.script, c'.sends, false⟩, host'.context⟩ := by
  have hp := s.prepared_context socket d
  have hp' := s'.prepared_context socket' d
  refine ⟨rfl, hcancelled, ⟨hscript, hsends, rfl⟩, ?_, ?_, ?_⟩
  · exact (h'.context.config.trans hp'.config).trans (h.context.config.trans hp.config).symm
  · exact (h'.context.echo.trans hp'.echo).trans (h.context.echo.trans hp.echo).symm
  · have hroom : ∀ {s : Server} {socket : ServerSocket},
        (s.front socket d).context.room = d.room := fun {s socket} => s.room_prepared socket d
    exact (h'.context.room.trans hroom).trans (h.context.room.trans hroom).symm

theorem guest_of_arrives {s : Server} {around : Surroundings} {socket : ServerSocket} {n : Nat}
    {q : SocketId} {rest : Trace} {c : Connection} {shown : String}
    (hc : socket.connections[n]? = some c) (hshown : Peer.display c.sender = .ok shown)
    (h : (s.run around socket).trace.Arrives n q rest) :
    q = .connection (s.connections.length + n) ∧
    ∃ d host before after, Context.ofConfig s.config = .ok d ∧
      Guest (s.front socket d) before q (.unblocked q none :: rest) c host ∧
      host.token.cancelled = false ∧
      rest = console ("Connection from " ++ shown) ++
        host.talk ⟨q, c.script, c.sends, false⟩ shown ++ .closed q :: after := by
  obtain ⟨before, l, v, ht, rfl, hstop⟩ := h
  obtain ⟨hawake, d, c', host, hd, hguest⟩ := guest_run ht
  have hahead : (s.front socket d).endpoint.ahead = socket.connections := rfl
  have hsame : c' = c := by
    have h0 := hguest.ahead
    rw [hahead, hc, Option.some.injEq] at h0
    exact h0.symm
  subst hsame
  obtain ⟨tail, htail, hv⟩ := hguest.unblocked
  obtain ⟨hu, rfl⟩ := List.cons.inj htail
  rw [Event.unblocked.injEq] at hu
  obtain ⟨after, hrest⟩ := hv shown hu.2.symm hshown
  refine ⟨hguest.id, d, host, before, after, hd, hguest, ?_, hrest⟩
  rw [hguest.cancelled, hstop, Bool.or_false]
  exact hawake

/-- A connection has the same session in any two runs with the same configuration in which the same
is sent over it, whatever the connections before it have brought. What is dumped of it and sent back
over it is a piece of what came over it. -/
theorem sessions_isolated (s s' : Server) (around around' : Surroundings)
    (socket socket' : ServerSocket) {n n' : Nat} {c c' : Connection} {q q' : SocketId}
    {rest rest' : Trace} {shown : String} (hconfig : s'.config = s.config)
    (hc : socket.connections[n]? = some c) (hc' : socket'.connections[n']? = some c')
    (hsender : c'.sender = c.sender) (hscript : c'.script = c.script) (hsends : c'.sends = c.sends)
    (hshown : Peer.display c.sender = .ok shown)
    (h : (s.run around socket).trace.Arrives n q rest)
    (h' : (s'.run around' socket').trace.Arrives n' q' rest') :
    q = .connection (s.connections.length + n) ∧ q' = .connection (s'.connections.length + n') ∧
    ∃ talk after after' : Trace,
      rest = console ("Connection from " ++ shown) ++ talk ++ .closed q :: after ∧
      rest' = console ("Connection from " ++ shown) ++ talk.on q' ++ .closed q' :: after' ∧
      (q' = q → talk.on q' = talk) ∧ talk.OnlyOn q ∧ talk.From (Delivers c.script) := by
  obtain ⟨hq, d, host, before, after, hd, hguest, hawake, hrest⟩ :=
    guest_of_arrives hc hshown h
  obtain ⟨hq', d', host', before', after', hd', hguest', hawake', hrest'⟩ :=
    guest_of_arrives hc' (hsender ▸ hshown) h'
  obtain rfl : d = d' := by
    rw [hconfig, hd, Except.ok.injEq] at hd'
    exact hd'
  have halike := alike_of_guest hguest hguest' hscript hsends (hawake'.trans hawake.symm)
  have htalk : host'.talk ⟨q', c'.script, c'.sends, false⟩ shown =
      (host.talk ⟨q, c.script, c.sends, false⟩ shown).on q' :=
    Stream.Listener.talk_of_alike halike shown
  have honly := host.onlyOn_talk ⟨q, c.script, c.sends, false⟩ shown
  refine ⟨hq, hq', host.talk ⟨q, c.script, c.sends, false⟩ shown, after, after', hrest, ?_,
    fun he => ?_, honly, host.from_talk _ _⟩
  · rw [hrest', htalk]
  · rw [he]
    exact Trace.on_of_onlyOn honly

theorem arrives_of_drop {t : Trace} {q : SocketId} (k : Nat)
    (h : (match t.drop k with
      | .accepted _ p _ :: .unblocked p' none :: _ => p == q && p' == q
      | _ => false) = true)
    (hstop : (t.take k).any Event.isStop = false) :
    ∃ rest, t.Arrives ((t.take k).countP Event.isAccept) q rest := by
  split at h
  · next l p v p' rest hdrop =>
    simp only [Bool.and_eq_true, beq_iff_eq] at h
    obtain ⟨rfl, rfl⟩ := h
    exact ⟨rest, t.take k, l, v, by rw [← hdrop, List.take_append_drop], rfl, hstop⟩
  · simp at h

def guest : Connection :=
  ⟨.tuple [.text "192.0.2.11", .int 36412], [.delivering [120], .delivering []],
    [.accept 0, .accept 1], none⟩

def guestAfter (first : List (Item (List UInt8))) : ServerSocket :=
  { ServerSocket.silent with script := [
    .delivering ⟨some ⟨.tuple [.text "192.0.2.10", .int 36412], first, [], none⟩, none⟩,
    .delivering ⟨some guest, none⟩] }

theorem display_guest : Peer.display guest.sender = .ok "192.0.2.11:36412" := by
  have h : (Peer.display guest.sender).toOption = some "192.0.2.11:36412" := by decide +kernel
  cases hd : Peer.display guest.sender with
  | error f => simp [hd, Except.toOption] at h
  | ok shown => simpa [hd, Except.toOption] using h

theorem sessions_isolated_guest :
    ∃ rest rest' talk after after' : Trace,
      ((echoing (.float Settings.one)).run ⟨true, true, 0, false⟩
        (guestAfter [.delivering [115, 101, 99], .delivering []])).trace.Arrives 1
          (.connection 1) rest ∧
      ((echoing (.float Settings.one)).run ⟨true, true, 0, false⟩
        (guestAfter [⟨.error, some .bare, none, none, none⟩])).trace.Arrives 1
          (.connection 1) rest' ∧
      rest = console "Connection from 192.0.2.11:36412" ++ talk ++
        .closed (.connection 1) :: after ∧
      rest' = console "Connection from 192.0.2.11:36412" ++ talk ++
        .closed (.connection 1) :: after' ∧
      talk.From (Delivers guest.script) := by
  have harrives := arrives_of_drop (q := .connection 1)
    (t := ((echoing (.float Settings.one)).run ⟨true, true, 0, false⟩
      (guestAfter [.delivering [115, 101, 99], .delivering []])).trace) 28
    (by decide +kernel) (by decide +kernel)
  have harrives' := arrives_of_drop (q := .connection 1)
    (t := ((echoing (.float Settings.one)).run ⟨true, true, 0, false⟩
      (guestAfter [⟨.error, some .bare, none, none, none⟩])).trace) 21
    (by decide +kernel) (by decide +kernel)
  rw [show List.countP _ _ = 1 by decide +kernel] at harrives harrives'
  obtain ⟨rest, hrest⟩ := harrives
  obtain ⟨rest', hrest'⟩ := harrives'
  have hguest : ∀ first, (guestAfter first).connections[1]? = some guest := fun _ => rfl
  obtain ⟨-, -, talk, after, after', ht, ht', hsame, -, hfrom⟩ := sessions_isolated _ _ _ _ _ _
    rfl (hguest _) (hguest _) rfl rfl rfl display_guest hrest hrest'
  rw [hsame rfl] at ht'
  exact ⟨rest, rest', talk, after, after', hrest, hrest', ht, ht', hfrom⟩

end Server

end SctpProbe
