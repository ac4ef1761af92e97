import SctpProbe.Proofs.Failing
import SctpProbe.Proofs.Heeding
set_option autoImplicit false

namespace SctpProbe

open Network

namespace Network

theorem Event.not_stop_of_isFatal {id : SocketId} {e : Event} (h : e.isFatal id = true) :
    e.isStop = false := by
  cases e <;> simp_all [isFatal, isStop]

namespace Trace

/-- Somebody asks to stop, and nothing fatal comes after that. -/
def stopsWell (id : SocketId) : Trace → Bool
  | [] => false
  | e :: rest => (e.isStop && rest.all fun x => !x.isFatal id) || stopsWell id rest

variable {id : SocketId} {t : Trace}

theorem stopsWell_of_not_stop (h : ∀ x ∈ t, x.isStop = false) : t.stopsWell id = false := by
  induction t with
  | nil => rfl
  | cons e rest ih =>
    rw [stopsWell, h e List.mem_cons_self, ih fun x hx => h x (List.mem_cons_of_mem e hx)]
    rfl

theorem Fatal.not_stopsWell (h : t.Fatal id) : t.stopsWell id = false := by
  obtain ⟨before, x, after, rfl, hx, ha⟩ := h
  induction before with
  | nil =>
    refine stopsWell_of_not_stop fun y hy => ?_
    rcases List.mem_cons.1 hy with rfl | hy
    · exact Event.not_stop_of_isFatal hx
    · exact ha y hy
  | cons e rest ih =>
    have hall : (rest ++ x :: after).all (fun y => !y.isFatal id) = false := by simp [hx]
    rw [List.cons_append, stopsWell, hall, ih, Bool.and_false, Bool.or_false]

theorem Still.not_accepted (h : t.Still) (l c : SocketId) (sender : Value) :
    .accepted l c sender ∉ t := by
  intro hm
  have h0 := h _ hm
  simp [Event.role, Role.still] at h0

theorem Aside.sentOn (h : t.Aside) (id : SocketId) : t.sentOn id = [] := by
  refine sentOn_of_not_call fun e he => ?_
  have h0 := h e he
  cases e <;> simp_all [Event.aside, Event.isCall]

end Trace

end Network

def Arrival.sender? (a : Arrival) : Mode → Option Value
  | .stream => a.connection?.map Connection.sender
  | .message => a.message?.map Message.sender

/-- A run accepts the connection of a peer who stays blocked. -/
def Server.Blocked (s : Server) (socket : ServerSocket) (t : Trace) : Prop :=
  ∃ n c, socket.connections[n]? = some c ∧
    t.Blocked (.connection (s.connections.length + n)) c.sends

/-- The faults that a run may come to although it is being stopped. `t` is what the run shows. -/
inductive Excuse (s : Server) (socket : ServerSocket) (t : Trace) (f : Fault) : Prop
  | poll (h : Limit.ofNumber s.config.pollTimeout = .error f)
  | send (hm : s.config.mode = .stream) (he : s.config.echo.truthy = true)
    (h : Limit.ofValue s.config.sendTimeout = .error f)
  | stall (hm : s.config.mode = .stream) (he : s.config.echo.truthy = true)
    (hn : s.config.sendTimeout = .nothing) (hb : s.Blocked socket t) (hf : f = .endless)
  | untold {i : Item Arrival} {a : Arrival} {sender : Value} (hi : i ∈ socket.script)
    (ha : i.payload? = some a) (hs : a.sender? s.config.mode = some sender)
    (h : Peer.display sender = .error f)

theorem Excuse.mono {s : Server} {socket : ServerSocket} {t u : Trace} {f : Fault}
    (h : Excuse s socket t f) (hb : s.Blocked socket t → s.Blocked socket u) :
    Excuse s socket u f := by
  cases h with
  | poll h => exact .poll h
  | send hm he h => exact .send hm he h
  | stall hm he hn h hf => exact .stall hm he hn (hb h) hf
  | untold hi ha hs h => exact .untold hi ha hs h

namespace Server

/-- Whether a run gets as far as its main loop. -/
def starts (config : Config) (around : Surroundings) (socket : ServerSocket) : Bool :=
  (Context.ofConfig config).isOk && socket.obstacles.allow around.singleStack &&
    (announce config.mode around socket).2.isOk

def windup (id : SocketId) (signals : List Int) : Trace :=
  Trace.speak .info .server "Shutting down server..." ++ signals.flatMap signalReport ++
    [.closed id] ++
    Trace.speak .info .server "Server shutdown complete!"

/-- What a run comes to that ends well. -/
structure WoundUp (id : SocketId) (ran : Ran Server Ending) : Prop where
  result : ran.result = .ok (.status 0)
  closed : ran.trace.AllClosed
  last : ∃ main, ran.trace = main ++ windup id ran.state.token.signals

theorem mem_payload {i : Item Arrival} {α : Type} {view : Arrival → Option α} {p : α}
    (h : (i.filterMap view).payload? = some p) : ∃ a, i.payload? = some a ∧ view a = some p := by
  simpa [Item.filterMap, Option.bind_eq_some_iff] using h

theorem excuse_of_lapse {s : Server} {socket : ServerSocket} {c : Context} {t : Trace} {f : Fault}
    (hc : Context.ofConfig s.config = .ok c) (hm : s.config.mode = .stream)
    (h : (s.prepared socket c).2.Lapse (s.Blocked socket t) f) : Excuse s socket t f := by
  have hconfig := config_prepared hc socket
  have hecho := echo_prepared hc socket
  cases h with
  | poll h =>
    rw [hconfig, Limit.ofValue_toValue] at h
    exact .poll h
  | send he h =>
    rw [hconfig] at h
    rw [hecho] at he
    exact .send hm he h
  | stall he hn hb hf =>
    rw [hconfig] at hn
    rw [hecho] at he
    exact .stall hm he hn hb hf

def front (s : Server) (socket : ServerSocket) (c : Context) : Stream.Listener :=
  (s.up socket c).listener s.socketId socket (s.prepared socket c).2

/-- How the main loop of a run can end. -/
structure Verdict (s : Server) (socket : ServerSocket) (ran : Ran Server Bool) : Prop where
  failed : ran.result = .ok false → ran.trace.Fatal s.socketId
  faulted : ∀ f, ran.result = .error f → Excuse s socket ran.trace f
  closed : ran.result = .ok true → ran.trace.AllClosed

theorem verdict_mainLoop {s : Server} {c : Context} (hc : Context.ofConfig s.config = .ok c)
    (socket : ServerSocket) : Verdict s socket (s.mainLoop socket c) := by
  unfold mainLoop serve
  split
  · next hm =>
    have hv := Stream.Listener.verdict_service (s.front socket c)
    refine ⟨hv.failed, fun f hf => ?_, (Stream.Listener.accounted_service _).closed⟩
    rcases hv.faulted f hf with h | ⟨i, hi, d, hd, hs⟩
    · exact excuse_of_lapse hc hm h
    · obtain ⟨j, hj, rfl⟩ := List.mem_map.1 hi
      obtain ⟨a, ha, hview⟩ := mem_payload (Item.payload_of_delivery hd)
      refine .untold hj ha ?_ hs
      rw [show s.config.mode = .stream from hm]
      simp [Arrival.sender?, hview]
  · next hm =>
    have hv := Messaging.Mailbox.verdict_service
      ((s.up socket c).mailbox s.socketId socket (s.prepared socket c).2)
      (room_prepared_pos hc socket)
    refine ⟨hv.failed, fun f hf => ?_, fun _ => ?_⟩
    · rcases hv.faulted f hf with h | ⟨i, hi, m, hd, hs⟩
      · change Limit.ofValue (s.prepared socket c).2.config.pollTimeout.toValue = .error f at h
        rw [config_prepared hc, Limit.ofValue_toValue] at h
        exact .poll h
      · obtain ⟨j, hj, rfl⟩ := List.mem_map.1 hi
        obtain ⟨a, ha, hview⟩ := mem_payload hd
        refine .untold hj ha ?_ hs
        rw [show s.config.mode = .message from hm]
        simp [Arrival.sender?, hview]
    · exact Stream.Listener.allClosed_of_onlyOn (Messaging.Mailbox.frame_service _).trace

theorem sentOn_shutDown (s : Server) (socket : ServerSocket) (c : Context) (id : SocketId) :
    Trace.sentOn id ((s.mainLoop socket c).state.shutDown.1 ++
      farewell (s.mainLoop socket c).result) = [] := by
  obtain ⟨d, hdown⟩ := s.shutDown_mainLoop socket c
  have hclosed : Trace.sentOn id [.closed s.socketId] = [] := rfl
  simp only [hdown, Trace.sentOn_append, Trace.sentOn_speak, (aside_signals _).sentOn,
    (aside_farewell _).sentOn, hclosed, List.append_nil]

theorem excuse_of_fault {s : Server} {socket : ServerSocket} {c : Context} {f : Fault}
    (hc : Context.ofConfig s.config = .ok c) (h : (s.mainLoop socket c).result = .error f)
    (around : Surroundings) :
    Excuse s socket (s.preface around socket c ++ (s.mainLoop socket c).trace ++
      (s.mainLoop socket c).state.shutDown.1 ++ farewell (s.mainLoop socket c).result) f := by
  refine ((verdict_mainLoop hc socket).faulted f h).mono fun ⟨n, conn, hn, hb⟩ =>
    ⟨n, conn, hn, ?_⟩
  rw [List.append_assoc]
  exact (hb.prepend _).append (still_ending _ _).calm (s.sentOn_shutDown socket c _)

/-- A run that starts gets to its main loop, and shuts down after it. -/
theorem run_of_starts {s : Server} {around : Surroundings} {socket : ServerSocket}
    (h : starts s.config around socket = true) :
    ∃ c, Context.ofConfig s.config = .ok c ∧ socket.obstacles.allow around.singleStack = true ∧
      (announce s.config.mode around socket).2.isOk = true ∧
      s.run around socket =
        ⟨s.preface around socket c ++ (s.mainLoop socket c).trace ++
          (s.mainLoop socket c).state.shutDown.1 ++ farewell (s.mainLoop socket c).result,
          (s.mainLoop socket c).state.shutDown.2, (s.mainLoop socket c).result.map status⟩ := by
  obtain ⟨hready, hallow, hann⟩ : (Context.ofConfig s.config).isOk = true ∧
      socket.obstacles.allow around.singleStack = true ∧
      (announce s.config.mode around socket).2.isOk = true := by
    simpa [starts, and_assoc] using h
  have hset := allow_of_setup s around socket
  have hr := s.course around socket
  generalize s.run around socket = ran at hr ⊢
  cases hr with
  | unready hc => simp [hc, Except.isOk, Except.toBool] at hready
  | unset hc hs => simp [hs, hallow, Except.isOk, Except.toBool] at hset
  | unannounced hc hs ha => simp [ha, Except.isOk, Except.toBool] at hann
  | served hc => exact ⟨_, hc, hallow, hann, rfl⟩

theorem mainLoop_of_cancelled {s : Server} (h : s.token.cancelled = true) (socket : ServerSocket)
    (c : Context) : (s.mainLoop socket c).trace = [] := by
  unfold mainLoop serve
  split
  · rw [Stream.Listener.service_of_cancelled _ h]
  · rw [Messaging.Mailbox.service_of_cancelled _ h]

section

variable {s : Server} {around : Surroundings} {socket : ServerSocket} {c : Context}

theorem not_stopsWell_of_failed (h : (s.mainLoop socket c).trace.Fatal s.socketId) {after : Trace}
    (ha : after.Still) :
    (s.token.cancelled ||
      (s.preface around socket c ++ (s.mainLoop socket c).trace ++ after).stopsWell s.socketId) =
      false := by
  have hc : s.token.cancelled = false := by
    cases hc : s.token.cancelled with
    | false => rfl
    | true =>
      obtain ⟨before, e, rest, ht, -, -⟩ := h
      rw [mainLoop_of_cancelled hc] at ht
      simp at ht
  have hf := (h.prepend (s.preface around socket c)).append ha.not_stop
  rw [hc, hf.not_stopsWell]
  rfl

theorem closings_around (h : (s.mainLoop socket c).trace.AllClosed)
    (hallow : socket.obstacles.allow around.singleStack = true) :
    (s.preface around socket c ++ (s.mainLoop socket c).trace ++
      windup s.socketId (s.mainLoop socket c).state.token.signals).AllClosed := by
  have hv := (s.up socket c).served s.socketId socket (s.prepared socket c).2
  intro l q sender hm
  have hwind : (windup s.socketId (s.mainLoop socket c).state.token.signals).Still := by
    unfold windup
    simp only [Trace.still_append]
    exact ⟨⟨⟨Trace.still_speak _ _ _, (aside_signals _).still⟩, by simp [Trace.Still, Event.role,
      Role.still]⟩,
      Trace.still_speak _ _ _⟩
  have hmain : .accepted l q sender ∈ (s.mainLoop socket c).trace := by
    rcases List.mem_append.1 hm with hm | hm
    · rcases List.mem_append.1 hm with hm | hm
      · exact absurd hm ((s.still_preface around socket c).not_accepted l q sender)
      · exact hm
    · exact absurd hm (hwind.not_accepted l q sender)
  have hq : q ≠ s.socketId := by
    rintro rfl
    exact hv.sockets s.runs (List.mem_filterMap.2 ⟨_, hmain, rfl⟩)
  have hwindup : (windup s.socketId (s.mainLoop socket c).state.token.signals).closings q = 0 := by
    simp only [windup, Trace.closings_append, (Trace.inert_speak _ _ _).closings,
      (aside_signals _).inert.closings,
      Trace.closings_closed, hq, if_false]
  rw [Trace.closings_append, Trace.closings_append,
    s.closings_preface around socket c hallow, hwindup,
    h l q sender hmain]

end

theorem outcome_of_stopped {s : Server} {around : Surroundings} {socket : ServerSocket}
    (hstart : starts s.config around socket = true)
    (hstop : (s.token.cancelled || (s.run around socket).trace.stopsWell s.socketId) = true) :
    (∃ f, (s.run around socket).result = .error f ∧
      Excuse s socket (s.run around socket).trace f) ∨
      WoundUp s.socketId (s.run around socket) := by
  obtain ⟨c, hc, hallow, -, hrun⟩ := run_of_starts hstart
  rw [hrun] at hstop ⊢
  have hv := verdict_mainLoop hc socket
  obtain ⟨d, hdown⟩ := s.shutDown_mainLoop socket c
  cases hm : (s.mainLoop socket c).result with
  | error f => exact .inl ⟨f, by simp [Except.map], hm ▸ excuse_of_fault hc hm around⟩
  | ok usable =>
    cases usable with
    | false =>
      rw [List.append_assoc,
        not_stopsWell_of_failed (hv.failed hm) (still_ending _ _)] at hstop
      simp at hstop
    | true =>
      have htrace : s.preface around socket c ++ (s.mainLoop socket c).trace ++
          (s.mainLoop socket c).state.shutDown.1 ++ farewell (.ok true) =
          s.preface around socket c ++ (s.mainLoop socket c).trace ++
            windup s.socketId (s.mainLoop socket c).state.token.signals := by
        rw [hdown, windup, farewell]
        simp only [List.append_assoc]
      refine .inr ⟨by simp [Except.map, status], ?_, ?_⟩
      · rw [htrace]
        exact closings_around (hv.closed hm) hallow
      · refine ⟨s.preface around socket c ++ (s.mainLoop socket c).trace, ?_⟩
        rw [htrace]
        rw [hdown]

/-- Once somebody has asked to stop, nothing begins any more: the wait or the call in progress comes
to its end and is the last one. The run then closes what it has accepted, shuts down and returns
zero, unless its socket fails, it comes to a fault that lies in its timeouts or in the address of a
peer, or a peer stays blocked who is sent to without a limit. -/
theorem stop_heeded (s : Server) (around : Surroundings) (socket : ServerSocket) :
    (s.run around socket).state.token.cancelled =
      (s.token.cancelled || (s.run around socket).trace.any Event.isStop) ∧
    (s.token.cancelled = true → (s.run around socket).trace.Calm) ∧
    (∀ before e after, (s.run around socket).trace = before ++ e :: after → e.isStop = true →
      Trace.Aftermath before after) ∧
    (starts s.config around socket = true →
      (s.token.cancelled || (s.run around socket).trace.stopsWell s.socketId) = true →
      (∃ f, (s.run around socket).result = .error f ∧
        Excuse s socket (s.run around socket).trace f) ∨
        WoundUp s.socketId (s.run around socket)) := by
  have hh := s.heeds_run around socket
  have hcalm : s.token.cancelled = true → (s.run around socket).trace.Calm := by
    intro hc
    obtain ⟨v, hv, -⟩ := hh.watched .winding (by rw [hc]; exact .inr rfl)
    exact Watch.calm_of_through hv
  refine ⟨hh.cancelled, hcalm, ?_, outcome_of_stopped⟩
  intro before e after ht he
  cases hc : s.token.cancelled with
  | true =>
    have hall := hcalm hc
    rw [ht] at hall
    exact .calm (Trace.calm_cons.1 (Trace.calm_append.1 hall).2).2
  | false =>
    obtain ⟨v, hv, -⟩ := hh.watched .awake (by rw [hc]; rfl)
    rw [ht] at hv
    exact Watch.aftermath_of_through hv he

theorem ne_error_of_isOk {α : Type} {r : Except Fault α} {f : Fault} (h : r.isOk = true) :
    r ≠ .error f := by
  rintro rfl
  simp [Except.isOk, Except.toBool] at h

def echoing (sendTimeout : Value) : Server :=
  new { Config.usual with echo := .bool true, sendTimeout := sendTimeout }

def parting : ServerSocket :=
  { ServerSocket.silent with script := [.delivering ⟨some ⟨.tuple [.text "192.0.2.10", .int 36412],
    [{ Item.delivering [120] with stop? := some .wait }], [], none⟩, none⟩] }

theorem renders_parting : ∀ i ∈ parting.script, ∀ a, i.payload? = some a →
    ∀ sender, a.sender? .stream = some sender → Peer.renders sender = true := by
  intro i hi a ha sender hs
  simp only [parting, List.mem_singleton] at hi
  subst hi
  simp only [Item.delivering, Option.some.injEq] at ha
  subst ha
  simp only [Arrival.sender?, Option.map_some, Option.some.injEq] at hs
  subst hs
  decide +kernel

theorem stop_heeded_parting :
    ((echoing (.float Settings.one)).run ⟨true, true, 0, false⟩ parting).result =
      .ok (.status 0) := by
  obtain ⟨-, -, -, h⟩ :=
    stop_heeded (echoing (.float Settings.one)) ⟨true, true, 0, false⟩ parting
  rcases h (by decide +kernel) (by decide +kernel) with ⟨f, -, he⟩ | h
  · cases he with
    | poll hl => exact absurd hl (ne_error_of_isOk (by decide +kernel))
    | send hm hv hl => exact absurd hl (ne_error_of_isOk (by decide +kernel))
    | stall hm hv hn hb hf => simp [echoing, new] at hn
    | untold hi ha hs hd =>
      exact absurd hd (ne_error_of_isOk (renders_parting _ hi _ ha _ hs))
  · exact h.result

/-- A timeout too long for a clock shows only as something is sent back, be the server stopped or
not. -/
theorem fault_of_timeout :
    ¬ ∀ (s : Server) (around : Surroundings) (socket : ServerSocket),
      starts s.config around socket = true →
      (s.token.cancelled || (s.run around socket).trace.stopsWell s.socketId) = true →
      (∀ i ∈ socket.script, ∀ a, i.payload? = some a →
        ∀ sender, a.sender? s.config.mode = some sender → Peer.renders sender = true) →
      (s.run around socket).result = .ok (.status 0) := by
  intro h
  have h0 := h (echoing (.int (10 ^ 400))) ⟨true, true, 0, false⟩ parting (by decide +kernel)
    (by decide +kernel) renders_parting
  have h1 := congrArg Except.isOk h0
  exact absurd h1 (by decide +kernel)

end Server

end SctpProbe
