import SctpProbe.Proofs.Turns.Run
import SctpProbe.Proofs.Turns.Service
import SctpProbe.Proofs.Views.Turns
set_option autoImplicit false

namespace SctpProbe

open Network

section

variable {σ : Type} {cancelled : σ → Bool} {once : σ → Ran σ Bool} {keeps : Event → Bool}
  {f : σ → σ}

theorem round_seen {s : σ} (hc : cancelled (f s) = cancelled s)
    (h : (once (f s)).seen keeps id id = (once s).seen keeps f id) :
    (round cancelled once (f s)).seen keeps id id = (round cancelled once s).seen keeps f id := by
  unfold round
  rw [hc]
  split
  · rfl
  · simp only
    generalize once (f s) = r' at h ⊢
    generalize once s = r at h ⊢
    obtain ⟨trace', state', result'⟩ := r'
    obtain ⟨trace, state, result⟩ := r
    simp only [Ran.seen, Ran.mk.injEq, id_eq, Except.map_id] at h
    obtain ⟨htrace, rfl, rfl⟩ := h
    rcases result' with e | (_ | _) <;> simp [Turn.seen, Ran.seen, htrace]

theorem loop_round_seen {weight : σ → Nat} {shrinks : Shrinks (round cancelled once) weight}
    (hc : ∀ s, cancelled (f s) = cancelled s) (holds : σ → Prop)
    (step : ∀ s, holds s → (once s).result = .ok true → holds (once s).state)
    (alike : ∀ s, holds s → (once (f s)).seen keeps id id = (once s).seen keeps f id)
    {s : σ} (h : holds s) :
    (loop (round cancelled once) weight shrinks (f s)).seen keeps id id =
      (loop (round cancelled once) weight shrinks s).seen keeps f id := by
  refine loop_seen holds ?_ (fun s hs => .inl (round_seen (hc s) (alike s hs))) s h
  intro s trace next hs ht
  have hr := ht ▸ servicing cancelled once s
  cases hr with
  | again _ hr => exact step s hs hr

end

namespace View

def arrival (v : View) (a : Arrival) : Arrival :=
  { a with connection? := a.connection?.map v.arriving }

def skipsIn (v : View) (mode : Mode) (i : Item Arrival) : Bool :=
  match mode with
  | .stream => v.skips (i.filterMap Arrival.connection?)
  | .message => v.skips (i.filterMap Arrival.message?)

def socket (v : View) (mode : Mode) (socket : ServerSocket) : ServerSocket :=
  { socket with
    script := (socket.script.filter fun i => !v.skipsIn mode i).map (Item.map v.arrival)
    sends := v.sends socket.sends }

def server (v : View) (s : Server) : Server :=
  { s with
    config := v.config s.config
    context? := s.context?.map v.context
    connections := s.connections.map (v.endpoint id)
    discarded := s.discarded.map v.context }

end View

namespace Stream.Listener

variable {v : View} {s : Listener}

theorem serve_seen {conn : Endpoint (List UInt8)} {shown : String}
    (h : (Session.run (v.session ⟨s.token, conn, s.context⟩)).seen v.keeps id id =
      (Session.run ⟨s.token, conn, s.context⟩).seen v.keeps v.session id) :
    ((v.listener s).serve (v.endpoint id conn) shown).seen v.keeps id id =
      (s.serve conn shown).seen v.keeps v.listener id := by
  change ((v.listener s).session (v.endpoint id conn)).seen v.keeps id id =
    (s.session conn).seen v.keeps v.session id at h
  rw [serve_eq, serve_eq]
  unfold served
  generalize (v.listener s).session (v.endpoint id conn) = r' at h ⊢
  generalize s.session conn = r at h ⊢
  obtain ⟨trace', state', result'⟩ := r'
  obtain ⟨trace, state, result⟩ := r
  simp only [Ran.seen, Ran.mk.injEq, id_eq, Except.map_id] at h
  obtain ⟨htrace, rfl, rfl⟩ := h
  have hleave : ((v.listener s).connections.map fun e =>
      if e.id = (v.session state).endpoint.id then (v.session state).endpoint else e) =
      (s.connections.map fun e => if e.id = state.endpoint.id then state.endpoint else e).map
        (v.endpoint id) := by
    simp only [View.listener, List.map_map]
    refine List.map_congr_left fun e _ => ?_
    by_cases he : e.id = state.endpoint.id <;> simp [he, View.endpoint, View.session]
  simp only [Ran.seen, List.filter_append, htrace, leave, hleave]
  rfl

/-- A round looks the same if the session of the connection that it accepts does. -/
theorem runOnce_seen
    (ha : (v.listener s).accept.seen v.keeps id id = s.accept.seen v.keeps v.listener v.accepted)
    (h : ∀ conn peer, s.accept.result = .ok (some (conn, peer)) →
      (Session.run (v.session ⟨s.accept.state.token, conn, s.accept.state.context⟩)).seen v.keeps
          id id =
        (Session.run ⟨s.accept.state.token, conn, s.accept.state.context⟩).seen v.keeps v.session
          id) :
    (v.listener s).runOnce.seen v.keeps id id = s.runOnce.seen v.keeps v.listener id := by
  unfold runOnce
  generalize (v.listener s).accept = r' at ha ⊢
  generalize s.accept = r at ha h ⊢
  obtain ⟨trace', state', result'⟩ := r'
  obtain ⟨trace, state, result⟩ := r
  simp only [Ran.seen, Ran.mk.injEq, id_eq, Except.map_id] at ha
  obtain ⟨htrace, rfl, rfl⟩ := ha
  rcases result with e | (_ | ⟨conn, peer⟩)
  · simp only [Except.map]
    cases e <;> simp [Ran.seen, htrace]
  · simp [Except.map, View.accepted, Ran.seen, htrace]
  · simp only [Except.map, View.accepted, Option.map_some, Ran.seen_after, htrace]
    congr 1
    unfold welcome
    cases Peer.shownOrUnknown peer with
    | error f => rfl
    | ok shown =>
      simp only [Ran.seen_after]
      exact congrArg (Ran.after · _) (serve_seen (h conn peer rfl))

end Stream.Listener

namespace Messaging.Mailbox

theorem service_seen {v : View} {s : Mailbox}
    (h : (v.mailbox s).runOnce.seen v.keeps id id = s.runOnce.seen v.keeps v.mailbox id) :
    (v.mailbox s).service.seen v.keeps id id = s.service.seen v.keeps v.mailbox id := by
  cases hc : s.token.cancelled with
  | true => rw [service_of_cancelled s hc, service_of_cancelled (v.mailbox s) hc]; rfl
  | false => rwa [service_eq s hc, service_eq (v.mailbox s) hc]

end Messaging.Mailbox

namespace Server

variable {v : View} {s : Server} {socket : ServerSocket} {c : Context}

theorem ofConfig_seen (v : View) (config : Config) :
    Context.ofConfig (v.config config) = (Context.ofConfig config).map v.context := by
  unfold Context.ofConfig
  change (do let n ← Context.bufferLength config.bufferSize; _) = _
  cases Context.bufferLength config.bufferSize <;> rfl

theorem listener_seen (v : View) (s : Server) (id : SocketId) (socket : ServerSocket)
    (c : Context) :
    (v.server s).listener id (v.socket .stream socket) (v.context c) =
      v.listener (s.listener id socket c) := by
  have hitem (i : Item Arrival) : (i.map v.arrival).filterMap Arrival.connection? =
      (i.filterMap Arrival.connection?).map v.arriving := by
    simp only [Item.filterMap, Item.map]
    cases i.payload? <;> rfl
  simp only [listener, View.socket, View.server, View.listener, View.endpoint, View.script,
    List.map_map, List.filter_map]
  congr 2
  exact List.map_congr_left fun i _ => hitem i

theorem mailbox_seen (v : View) (s : Server) (id : SocketId) (socket : ServerSocket)
    (c : Context) :
    (v.server s).mailbox id (v.socket .message socket) (v.context c) =
      v.mailbox (s.mailbox id socket c) := by
  have hitem (i : Item Arrival) : (i.map v.arrival).filterMap Arrival.message? =
      i.filterMap Arrival.message? := by
    simp only [Item.filterMap, Item.map]
    cases i.payload? <;> rfl
  simp only [mailbox, View.socket, View.server, View.mailbox, View.endpoint, View.script,
    List.map_map, List.filter_map]
  congr 2
  refine List.map_congr_left fun i _ => ?_
  simp only [Function.comp, hitem, Item.map_id]

def ServesAlike (v : View) (s : Server) (own : SocketId) (socket : ServerSocket) (c : Context) :
    Prop :=
  match s.config.mode with
  | .stream => (v.listener (s.listener own socket c)).service.seen v.keeps id id =
      (s.listener own socket c).service.seen v.keeps v.listener id
  | .message => (v.mailbox (s.mailbox own socket c)).service.seen v.keeps id id =
      (s.mailbox own socket c).service.seen v.keeps v.mailbox id

theorem serve_seen {own : SocketId} (h : ServesAlike v s own socket c) :
    ((v.server s).serve own (v.socket s.config.mode socket) (v.context c)).seen v.keeps id id =
      (s.serve own socket c).seen v.keeps v.server id := by
  have hmode : (v.server s).config.mode = s.config.mode := rfl
  unfold ServesAlike at h
  unfold serve
  rw [hmode]
  cases hm : s.config.mode with
  | stream =>
    rw [hm] at h
    simp only [listener_seen] at h ⊢
    generalize (v.listener (s.listener own socket c)).service = r' at h ⊢
    generalize (s.listener own socket c).service = r at h ⊢
    obtain ⟨trace', state', result'⟩ := r'
    simp only [Ran.seen, Ran.mk.injEq, id_eq, Except.map_id] at h ⊢
    obtain ⟨htrace, rfl, rfl⟩ := h
    exact ⟨htrace, rfl, rfl⟩
  | message =>
    rw [hm] at h
    simp only [mailbox_seen] at h ⊢
    generalize (v.mailbox (s.mailbox own socket c)).service = r' at h ⊢
    generalize (s.mailbox own socket c).service = r at h ⊢
    obtain ⟨trace', state', result'⟩ := r'
    simp only [Ran.seen, Ran.mk.injEq, id_eq, Except.map_id] at h ⊢
    obtain ⟨htrace, rfl, rfl⟩ := h
    exact ⟨htrace, rfl, rfl⟩

theorem shutDown_seen (v : View) (s : Server) :
    (v.server s).shutDown = (s.shutDown.1, v.server s.shutDown.2) := by
  unfold shutDown View.server
  cases s.context? <;> rfl

/-- A run looks the same if its preparation and its main loop do. -/
theorem run_seen (around : Surroundings)
    (hp : ∀ c, ((v.server s).prepared (v.socket s.config.mode socket) (v.context c)).1.filter
        v.keeps = (s.prepared socket c).1.filter v.keeps ∧
      ((v.server s).prepared (v.socket s.config.mode socket) (v.context c)).2 =
        v.context (s.prepared socket c).2)
    (h : ∀ c, Context.ofConfig s.config = .ok c →
      ServesAlike v (s.up socket c) s.socketId socket (s.prepared socket c).2) :
    ((v.server s).run around (v.socket s.config.mode socket)).seen v.keeps id id =
      (s.run around socket).seen v.keeps v.server id := by
  have hopening : (v.server s).opening = s.opening := rfl
  have hsetup : (v.server s).setup around (v.socket s.config.mode socket) =
      s.setup around socket := rfl
  have hannounce : announce (v.server s).config.mode around (v.socket s.config.mode socket) =
      announce s.config.mode around socket := rfl
  have hcontext : Context.ofConfig (v.server s).config =
      (Context.ofConfig s.config).map v.context := ofConfig_seen v s.config
  have hholding (c : Context) : (v.server s).holding (v.socket s.config.mode socket) (v.context c) =
      v.server (s.holding socket c) := by
    simp only [holding, (hp c).2]
    rfl
  have hpreface (c : Context) :
      ((v.server s).preface around (v.socket s.config.mode socket) (v.context c)).filter v.keeps =
        (s.preface around socket c).filter v.keeps := by
    simp only [preface, hopening, hsetup, hannounce, List.filter_append, (hp c).1, (hp c).2]
    rfl
  rw [run_eq, run_eq, hopening, hsetup, hannounce, hcontext]
  cases hc : Context.ofConfig s.config with
  | error f => rfl
  | ok c =>
    simp only [Except.map]
    cases (s.setup around socket).2 with
    | error e => simp [Ran.seen, View.server, View.context, Context.close, begun]
    | ok u =>
      simp only
      cases (announce s.config.mode around socket).2 with
      | error f => simp [Ran.seen, hpreface, hholding]
      | ok u =>
        have hm : ((v.server s).mainLoop (v.socket s.config.mode socket) (v.context c)).seen
            v.keeps id id = (s.mainLoop socket c).seen v.keeps v.server id := by
          have hs := serve_seen (h c hc)
          simp only [mainLoop, up, hholding, (hp c).2]
          exact hs
        simp only
        generalize (v.server s).mainLoop (v.socket s.config.mode socket) (v.context c) = r' at hm ⊢
        generalize s.mainLoop socket c = r at hm ⊢
        obtain ⟨trace', state', result'⟩ := r'
        simp only [Ran.seen, Ran.mk.injEq, id_eq, Except.map_id] at hm ⊢
        obtain ⟨htrace, rfl, rfl⟩ := hm
        simp [shutDown_seen, hpreface, htrace]

end Server

end SctpProbe
