import SctpProbe.Proofs.Pacing
import SctpProbe.Proofs.Stalling
set_option autoImplicit false

/-!
How a run comes to an end. Each of its sockets is waited for no more often than there are items in
its script, rests of their payloads, and the end of the script (`allowance`): of its own socket a
round of servicing uses some of that up, and no connection is served twice
(`Listener.waits_service`). If no connection stalls for ever a run ends (`Server.run_ends`).
-/

namespace SctpProbe

open Network

namespace Network

variable {α : Type}

/-- How often a socket may be waited for, when `more` tells how many reads a payload takes besides
the first one: for each item, for each rest of a payload, and at the end of the script. -/
def allowance (more : α → Nat) (script : List (Item α)) : Nat :=
  script.length + ((script.filterMap Item.payload?).map more).foldr (· + ·) 0 + 1

theorem loads_eq (more : α → Nat) (script : List (Item α)) :
    Item.loads more script + 1 = allowance more script := by
  unfold allowance
  induction script with
  | nil => rfl
  | cons i rest ih =>
    cases hp : i.payload? with
    | none =>
      simp only [Item.loads, Item.load, hp, List.filterMap_cons, List.length_cons]
      omega
    | some p =>
      simp only [Item.loads, Item.load, hp, List.filterMap_cons, List.length_cons, List.map_cons,
        List.foldr_cons]
      omega

theorem remaining_le (more : α → Nat) (t : Token) (e : Endpoint α) :
    remaining more t e ≤ allowance more e.script := by
  have hw : t.weight ≤ 1 := by
    unfold Token.weight
    split <;> omega
  have := loads_eq more e.script
  simp only [remaining, Endpoint.load]
  omega

theorem allowance_single (script : List (Item α)) :
    allowance (fun _ => 0) script = script.length + 1 := by
  unfold allowance
  generalize script.filterMap Item.payload? = payloads
  induction payloads with
  | nil => rfl
  | cons p rest ih => simpa using ih

def Connection.allowance (room : Nat) (c : Connection) : Nat :=
  Network.allowance (fun bytes => rests room bytes.length) c.script

end Network

namespace Stream

/-- A session that takes no more turns than its connection may be waited for, each of which begins
with one wait. -/
def Session.Steady (s : Session) : Prop :=
  ∃ n, n ≤ allowance (fun bytes => rests s.context.room bytes.length) s.endpoint.script ∧
    Paced turn (fun s => s.token.cancelled) (fun s t => OneWait s.poll s.endpoint.id t) s n s.run

theorem Session.steady (s : Session) (h : 0 < s.context.room) : s.Steady := by
  obtain ⟨n, hn, hp⟩ := s.paced_run h
  have hleft := remaining_le (fun bytes => rests s.context.room bytes.length) s.token s.endpoint
  unfold left at hn
  exact ⟨n, by omega, hp⟩

theorem Session.waits_run (s : Session) (h : 0 < s.context.room) :
    s.run.trace.waits s.endpoint.id ≤
      allowance (fun bytes => rests s.context.room bytes.length) s.endpoint.script := by
  obtain ⟨n, hn, hp⟩ := s.steady h
  exact Nat.le_trans (hp.waits_le fun _ _ _ h => (frame_again h).id) hn

namespace Listener

variable {s : Listener} {ran : Ran Listener Bool}

structure Steady (s : Listener) : Prop where
  accepting : ∃ n, n ≤ s.endpoint.script.length + 1 ∧
    Paced acceptTurn (fun s => s.token.cancelled) (fun s t => OneWait s.poll s.endpoint.id t) s n
      s.accept
  servicing : ∃ n, n ≤ s.endpoint.script.length + 1 ∧
    Paced (round (fun s : Listener => s.token.cancelled) runOnce) (fun s => s.token.cancelled)
      (fun s t => t = s.runOnce.trace) s n s.service

theorem remaining_le_length (s : Listener) : s.remaining ≤ s.endpoint.script.length + 1 := by
  rw [← allowance_single]
  exact remaining_le size s.token s.endpoint

theorem steady (s : Listener) : s.Steady := by
  have hleft := s.remaining_le_length
  obtain ⟨n, hn, hp⟩ := s.paced_accept
  obtain ⟨m, hm, hq⟩ := s.paced_service
  exact ⟨⟨n, by omega, hp⟩, ⟨m, by omega, hq⟩⟩

theorem waits_accept (s : Listener) :
    s.accept.trace.waits s.endpoint.id + s.accept.state.remaining ≤ s.remaining := by
  obtain ⟨n, hn, hp⟩ := s.paced_accept
  have hwaits := hp.waits_le fun _ _ _ h => (quiet_again h).id
  omega

theorem waits_accept_other (s : Listener) {q : SocketId} (hq : q ≠ s.endpoint.id) :
    s.accept.trace.waits q = 0 := by
  have ha := s.accepting
  generalize s.accept = ran at ha ⊢
  cases ha with
  | without hquiet => exact Trace.waits_of_onlyOn hquiet.trace hq
  | connected hquiet =>
    rw [Trace.waits_append, Trace.waits_of_onlyOn hquiet.trace hq]
    rfl

theorem waits_session_other (s : Listener) (conn : Endpoint (List UInt8)) {q : SocketId}
    (hq : q ≠ conn.id) : (s.session conn).trace.waits q = 0 :=
  Trace.waits_of_onlyOn (Session.frame_run ⟨s.token, conn, s.context⟩).trace hq

/-- A round waits as it accepts, and on the connection that it serves. -/
theorem waits_round (hr : Round s ran) :
    (ran.state = s.accept.state ∧ ∀ q, ran.trace.waits q = s.accept.trace.waits q) ∨
    ∃ conn peer, s.accept.result = .ok (some (conn, peer)) ∧
      ran.state = s.accept.state.served conn ∧
      ∀ q, ran.trace.waits q =
        s.accept.trace.waits q + (s.accept.state.session conn).trace.waits q := by
  cases hr with
  | stopped => exact .inl ⟨rfl, fun _ => rfl⟩
  | failed => exact .inl ⟨rfl, fun q => by simp⟩
  | faulted => exact .inl ⟨rfl, fun _ => rfl⟩
  | unshown => exact .inl ⟨rfl, fun _ => rfl⟩
  | @served conn peer shown ha =>
    refine .inr ⟨conn, peer, ha, by rw [Ran.state_after, Ran.state_after, serve_eq], fun q => ?_⟩
    have hverdict : (verdict (s.accept.state.session conn).result shown).waits q = 0 := by
      unfold verdict
      split
      · exact Trace.waits_speak _ _ _ q
      · rfl
    have hclosed : Trace.waits q [.closed conn.id] = 0 := rfl
    rw [Ran.trace_after, Ran.trace_after, serve_eq]
    simp only [Trace.waits_append, Trace.waits_console, hverdict, hclosed]
    omega

theorem remaining_served (s : Listener) (conn : Endpoint (List UInt8)) :
    (s.served conn).remaining ≤ s.remaining :=
  Nat.add_le_add_left (Session.weight_run_le ⟨s.token, conn, s.context⟩) _

/-- What a round waits for its own socket is gone afterwards. -/
theorem waits_listening (hid : ∀ n, .connection n ≠ s.endpoint.id) (hr : Round s ran) :
    ran.trace.waits s.endpoint.id + ran.state.remaining ≤ s.remaining := by
  have ha := s.waits_accept
  rcases waits_round hr with ⟨hstate, hw⟩ | ⟨conn, peer, hresult, hstate, hw⟩
  · rw [hstate, hw]
    exact ha
  · obtain ⟨n, hn⟩ := connection_of_accept hresult
    have hother := s.accept.state.waits_session_other conn (hn ▸ (hid n).symm)
    have hserved := s.accept.state.remaining_served conn
    rw [hstate, hw, hother]
    omega

def due (room : Nat) (s : Listener) : SocketId → Nat
  | .server _ => 0
  | .connection j =>
    if j < s.connections.length then 0
    else (s.endpoint.ahead[j - s.connections.length]?).elim 0 (Connection.allowance room)

theorem due_taken {next : Listener} {room a : Nat} {q : SocketId}
    (hahead : next.endpoint.ahead = s.endpoint.ahead.drop a)
    (hlength : next.connections.length = s.connections.length + a) :
    next.due room q ≤ s.due room q := by
  cases q with
  | server n => exact Nat.le_refl _
  | connection j =>
    by_cases hj : j < s.connections.length + a
    · simp only [due, hlength, if_pos hj]
      exact Nat.zero_le _
    · have hj0 : ¬ j < s.connections.length := by omega
      have hindex : a + (j - (s.connections.length + a)) = j - s.connections.length := by omega
      simp only [due, hlength, hahead, if_neg hj, if_neg hj0, List.getElem?_drop, hindex]
      exact Nat.le_refl _

/-- Serving a connection takes no more waits than are due for it, and none are due afterwards. -/
theorem waits_visit {conn : Endpoint (List UInt8)} {peer : Option Peer}
    (hroom : 0 < s.context.room) (h : s.accept.result = .ok (some (conn, peer))) :
    (s.accept.state.session conn).trace.waits conn.id ≤ s.due s.context.room conn.id ∧
      (s.accept.state.served conn).due s.context.room conn.id = 0 := by
  obtain ⟨c, hahead, rfl, hlength⟩ := first_of_accept h
  have hkept := s.lasting_accept.context.room
  have hrun := Session.waits_run ⟨s.accept.state.token, s.fresh c, s.accept.state.context⟩
    (hkept ▸ hroom)
  have hid : (s.fresh c).id = .connection s.connections.length := rfl
  rw [hid]
  refine ⟨?_, ?_⟩
  · simp only [due, hahead, Nat.lt_irrefl, if_false, Nat.sub_self, List.getElem?_cons_zero,
      Option.elim_some]
    rw [hkept] at hrun
    exact hrun
  · rw [due, length_served, hlength, if_pos (Nat.lt_succ_self _)]

theorem waits_connections (hroom : 0 < s.context.room) (hr : Round s ran) {q : SocketId}
    (hq : q ≠ s.endpoint.id) :
    ran.trace.waits q ≤ s.due s.context.room q ∧
      (ran.result = .ok true →
        ran.trace.waits q + ran.state.due s.context.room q ≤ s.due s.context.room q) := by
  have hafter : ran.result = .ok true → ran.state.due s.context.room q ≤ s.due s.context.room q :=
    fun hok => due_taken (ahead_round hr hok).1 (ahead_round hr hok).2
  have haccept := s.waits_accept_other hq
  rcases waits_round hr with ⟨-, hw⟩ | ⟨conn, peer, hresult, hstate, hw⟩
  · rw [hw, haccept, Nat.zero_add]
    exact ⟨Nat.zero_le _, hafter⟩
  · rw [hw, haccept, Nat.zero_add]
    by_cases hconn : q = conn.id
    · obtain ⟨hvisit, hnone⟩ := waits_visit hroom hresult
      rw [hconn, hstate, hnone]
      exact ⟨hvisit, fun _ => hvisit⟩
    · rw [s.accept.state.waits_session_other conn hconn, Nat.zero_add]
      exact ⟨Nat.zero_le _, hafter⟩

theorem waits_service (s : Listener) : 0 < s.context.room → (∀ n, .connection n ≠ s.endpoint.id) →
    s.service.trace.waits s.endpoint.id ≤ s.remaining ∧
      ∀ q, q ≠ s.endpoint.id → s.service.trace.waits q ≤ s.due s.context.room q := by
  refine service_induction (fun s ran => 0 < s.context.room →
    (∀ n, .connection n ≠ s.endpoint.id) →
    ran.trace.waits s.endpoint.id ≤ s.remaining ∧
      ∀ q, q ≠ s.endpoint.id → ran.trace.waits q ≤ s.due s.context.room q) ?_ ?_ ?_ s
  · intro s _ _ _
    exact ⟨Nat.zero_le _, fun _ _ => Nat.zero_le _⟩
  · intro s _ _ hroom hid
    have hlisten := waits_listening hid s.rounding
    exact ⟨by omega, fun q hq => (waits_connections hroom s.rounding hq).1⟩
  · intro s ran _ hr ih hroom hid
    have hlast := lasting_round s.rounding
    rw [hlast.id, hlast.context.room] at ih
    obtain ⟨hown, hothers⟩ := ih hroom hid
    have hlisten := waits_listening hid s.rounding
    refine ⟨?_, fun q hq => ?_⟩
    · rw [Ran.trace_after, Trace.waits_append]
      omega
    · -- what the round waits for a connection is not due any more in the rounds that follow
      have hround := (waits_connections hroom s.rounding hq).2 hr
      have hrest := hothers q hq
      rw [Ran.trace_after, Trace.waits_append]
      omega

end Listener

end Stream

namespace Messaging.Mailbox

structure Steady (s : Mailbox) : Prop where
  reading : ∃ n, n ≤ allowance (fun m => rests s.context.room m.data.length) s.endpoint.script ∧
    Paced turn (fun s => s.token.cancelled) (fun s t => OneWait s.poll s.endpoint.id t) s n
      s.runOnce
  servicing : ∃ n, n ≤ 1 ∧
    Paced (round (fun s : Mailbox => s.token.cancelled) runOnce) (fun s => s.token.cancelled)
      (fun s t => t = s.runOnce.trace) s n s.service

theorem steady (s : Mailbox) (h : 0 < s.context.room) : s.Steady := by
  obtain ⟨n, hn, hp⟩ := s.paced_runOnce h
  have hleft := remaining_le (fun m => rests s.context.room m.data.length) s.token s.endpoint
  unfold left at hn
  exact ⟨⟨n, by omega, hp⟩, s.paced_service⟩

theorem waits_service (s : Mailbox) (h : 0 < s.context.room) :
    s.service.trace.waits s.endpoint.id ≤
      allowance (fun m => rests s.context.room m.data.length) s.endpoint.script := by
  cases hc : s.token.cancelled with
  | true =>
    rw [s.service_of_cancelled hc]
    exact Nat.zero_le _
  | false =>
    obtain ⟨n, hn, hp⟩ := (s.steady h).reading
    rw [s.service_eq hc]
    exact Nat.le_trans (hp.waits_le fun _ _ _ h => (frame_again h).id) hn

end Messaging.Mailbox

def ServerSocket.allowance (socket : ServerSocket) (room : Nat) : Mode → Nat
  | .stream => socket.script.length + 1
  | .message => Network.allowance (fun m => rests room m.data.length)
      (socket.script.map (Item.filterMap Arrival.message?))

namespace Server

/-- A run that comes to an end, after no more waits than there is to wait for. -/
structure Terminates (s : Server) (socket : ServerSocket) (room : Nat) (ran : Ran Server Ending) :
    Prop where
  ends : Ends ran.result
  own : ran.trace.waits s.socketId ≤ socket.allowance room s.config.mode
  connections : ∀ k, ran.trace.waits (.connection (s.connections.length + k)) ≤
    socket.connections[k]?.elim 0 (Connection.allowance room)
  others : ∀ q, q ≠ s.socketId → (∀ k, q ≠ .connection (s.connections.length + k)) →
    ran.trace.waits q = 0

section

variable {s : Server} {around : Surroundings} {socket : ServerSocket} {c : Context} {room : Nat}

theorem waits_run (s : Server) (around : Surroundings) (socket : ServerSocket) :
    (∀ q, (s.run around socket).trace.waits q = 0) ∨
    ∃ c, Context.ofConfig s.config = .ok c ∧
      ∀ q, (s.run around socket).trace.waits q = (s.mainLoop socket c).trace.waits q := by
  rcases s.still_or_served around socket with ⟨hstill, -⟩ | ⟨c, hc, hrun⟩
  · exact .inl (Trace.waits_of_calm hstill.calm)
  · refine .inr ⟨c, hc, fun q => ?_⟩
    have hpreface := Trace.waits_of_calm (s.still_preface around socket c).calm q
    have hdown := Trace.waits_of_calm (still_shutDown (s.mainLoop socket c).state).calm q
    have hfarewell := Trace.waits_of_calm (aside_farewell (s.mainLoop socket c).result).still.calm q
    rw [hrun]
    simp only [Trace.waits_append]
    omega

theorem waits_mainLoop (socket : ServerSocket) (hc : Context.ofConfig s.config = .ok c)
    (hroom : c.room = room) :
    (s.mainLoop socket c).trace.waits s.socketId ≤ socket.allowance room s.config.mode ∧
      ∀ q, q ≠ s.socketId →
        (s.mainLoop socket c).trace.waits q ≤ (s.front socket c).due room q := by
  have hprepared : (s.prepared socket c).2.room = room := (s.room_prepared socket c).trans hroom
  have hpos := room_prepared_pos hc socket
  unfold mainLoop serve
  split
  · next hm =>
    obtain ⟨hown, hothers⟩ := (s.front socket c).waits_service hpos (by
      simp [front, listener, socketId])
    have hlength : (s.front socket c).endpoint.script.length + 1 =
        socket.allowance room s.config.mode := by
      rw [show s.config.mode = .stream from hm]
      simp [ServerSocket.allowance, front, listener]
    have hleft := (s.front socket c).remaining_le_length
    exact ⟨hlength ▸ Nat.le_trans hown hleft, fun q hq => hprepared ▸ hothers q hq⟩
  · next hm =>
    have hframe := Messaging.Mailbox.frame_service
      ((s.up socket c).mailbox s.socketId socket (s.prepared socket c).2)
    have hown := Messaging.Mailbox.waits_service
      ((s.up socket c).mailbox s.socketId socket (s.prepared socket c).2) hpos
    refine ⟨?_, fun q hq => ?_⟩
    · rw [show s.config.mode = .message from hm, ServerSocket.allowance, ← hprepared]
      exact hown
    · rw [Trace.waits_of_onlyOn hframe.trace hq]
      exact Nat.zero_le _

theorem due_front (s : Server) (socket : ServerSocket) (c : Context) (k : Nat) :
    (s.front socket c).due room (.connection (s.connections.length + k)) =
      socket.connections[k]?.elim 0 (Connection.allowance room) := by
  have hlength : (s.front socket c).connections.length = s.connections.length := rfl
  have hahead : (s.front socket c).endpoint.ahead = socket.connections := rfl
  rw [Stream.Listener.due, hlength, hahead, if_neg (Nat.not_lt.2 (Nat.le_add_right _ k)),
    Nat.add_sub_cancel_left]

theorem due_front_other {q : SocketId}
    (h : ∀ k, q ≠ .connection (s.connections.length + k)) : (s.front socket c).due room q = 0 := by
  cases q with
  | server n => rfl
  | connection j =>
    have hj : j < s.connections.length := by
      refine Nat.lt_of_not_le fun hle => h (j - s.connections.length) ?_
      rw [Nat.add_sub_cancel' hle]
    exact if_pos hj

/-- A run waits for its sockets only as often as there is something to wait for. -/
theorem terminates_run (around : Surroundings)
    (hroom : Context.bufferLength s.config.bufferSize = .ok room)
    (hends : Ends (s.run around socket).result) :
    Terminates s socket room (s.run around socket) := by
  rcases s.waits_run around socket with hnone | ⟨c, hc, hmain⟩
  · exact ⟨hends, by rw [hnone]; exact Nat.zero_le _, fun k => by rw [hnone]; exact Nat.zero_le _,
      fun q _ _ => hnone q⟩
  · obtain ⟨hown, hothers⟩ := waits_mainLoop socket hc
      ((Context.fresh_of_ofConfig hc).room_eq hroom)
    refine ⟨hends, ?_, fun k => ?_, fun q hq hk => ?_⟩
    · rw [hmain]
      exact hown
    · rw [hmain, ← due_front s socket c k]
      exact hothers _ (by simp [socketId])
    · have hdue := hothers q hq
      rw [due_front_other hk] at hdue
      rw [hmain]
      exact Nat.le_zero.1 hdue

/-- A run comes to an end unless some connection stalls for ever. Each turn of its loops begins with
one wait, and it waits for each of its sockets for an item of its script, for a rest of a payload,
or at the end. -/
theorem run_ends (s : Server) (around : Surroundings) (socket : ServerSocket)
    (hroom : Context.bufferLength s.config.bufferSize = .ok room)
    (hstall : s.config.sendTimeout = .nothing → ∀ c ∈ socket.connections, .stall ∉ c.sends) :
    Terminates s socket room (s.run around socket) ∧
    (∀ t : Stream.Session, 0 < t.context.room → t.Steady) ∧
    (∀ t : Stream.Listener, t.Steady) ∧
    (∀ t : Messaging.Mailbox, 0 < t.context.room → t.Steady) := by
  refine ⟨terminates_run around hroom fun h => ?_, Stream.Session.steady, Stream.Listener.steady,
    Messaging.Mailbox.steady⟩
  obtain ⟨hn, n, c, hc, hb⟩ := blocked_of_endless h
  exact hstall hn c (List.mem_of_getElem? hc) hb.stall_mem

end

def sipping : Server :=
  new { Config.usual with
    bufferSize := .int 2
    echo := .bool true
    sendTimeout := .nothing
    bufferSize_within := by decide }

def gulping : ServerSocket :=
  { ServerSocket.silent with script := [.delivering ⟨some ⟨.tuple [.text "192.0.2.10", .int 36412],
    [.delivering [1, 2, 3, 4, 5], .delivering []], [.accept 1, .block], none⟩, none⟩] }

theorem run_ends_gulping : Ends (sipping.run ⟨true, true, 0, false⟩ gulping).result ∧
    (sipping.run ⟨true, true, 0, false⟩ gulping).trace.waits (.server 0) ≤ 2 ∧
    (sipping.run ⟨true, true, 0, false⟩ gulping).trace.waits (.connection 0) ≤ 5 := by
  obtain ⟨h, -⟩ := run_ends sipping ⟨true, true, 0, false⟩ gulping
    (rfl : Context.bufferLength sipping.config.bufferSize = .ok 2)
    (by simp [ServerSocket.connections, gulping, Item.admitted?, Item.filterMap, Item.delivering,
      Item.delivery, Except.toOption])
  exact ⟨h.ends, h.own, h.connections 0⟩

end Server

end SctpProbe
