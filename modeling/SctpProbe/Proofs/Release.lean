import SctpProbe.Proofs.Closing
import SctpProbe.Proofs.Turns.Run
set_option autoImplicit false

namespace SctpProbe

open Network

namespace Network

namespace Trace

theorem closings_closed (q s : SocketId) : closings q [.closed s] = if q = s then 1 else 0 := by
  by_cases h : q = s
  · simp [closings, h]
  · simp [closings, h, Ne.symm h]

theorem closings_opened (q s : SocketId) (family type protocol : Int)
    (failure? : Option SystemError) :
    closings q [.opened s family type protocol failure?] = 0 := rfl

/-- A trace in which no socket comes or goes. -/
structure Inert (t : Trace) : Prop where
  sockets : t.sockets = []
  closings : ∀ q, t.closings q = 0

theorem inert_of_onlyOn {id : SocketId} {t : Trace} (h : OnlyOn id t) : Inert t :=
  ⟨sockets_of_onlyOn h, closings_of_onlyOn h⟩

theorem Aside.inert {t : Trace} (h : t.Aside) : t.Inert := by
  refine ⟨List.filterMap_eq_nil_iff.2 fun e he => ?_, fun q => List.countP_eq_zero.2 fun e he => ?_⟩
  · have h0 := h e he
    cases e <;> simp_all [Event.aside]
  · have h0 := h e he
    cases e <;> simp_all [Event.aside]

theorem inert_speak (level : Log.Level) (speaker : Log.Speaker) (message : String) :
    Inert (speak level speaker message) :=
  (aside_speak level speaker message).inert

end Trace

def Obstacles.allow (o : Obstacles) (optional : Bool) : Bool :=
  o.socket?.isNone && (!optional || o.setsockopt?.isNone) && o.bind?.isNone && o.listen?.isNone &&
    o.unblock?.isNone

theorem isNone_tryAll (as : List Attempt) :
    (tryAll as).2.isNone = as.all fun a => a.failure?.isNone := by
  induction as with
  | nil => rfl
  | cons a rest ih =>
    unfold tryAll
    split
    · next h => simp [h]
    · next h => simp [h, ih]

section

variable (config : Config) (type : Int) (id : SocketId) (optional : Bool) (o : Obstacles)

theorem isNone_attempts (h : o.socket? = none) :
    (tryAll (attempts config id optional o)).2.isNone = o.allow optional := by
  rw [isNone_tryAll, Obstacles.allow, h]
  cases optional <;> simp [attempts, Bool.and_assoc]

theorem isOk_setUp : (setUp config type id optional o).2.isOk = o.allow optional := by
  have hm := making config type id optional o
  generalize setUp config type id optional o = result at hm ⊢
  cases hm with
  | unmade h => simp [Obstacles.allow, h, Except.isOk, Except.toBool]
  | failed h hf =>
    rw [← isNone_attempts config id optional o h, hf]
    rfl
  | made h hf =>
    rw [← isNone_attempts config id optional o h, hf]
    rfl

theorem sockets_setUp :
    (setUp config type id optional o).1.sockets = if o.socket?.isNone then [id] else [] := by
  have ht := (aside_tryAll (aside_attempts config id optional o)).inert.sockets
  have hm := making config type id optional o
  generalize setUp config type id optional o = result at hm ⊢
  cases hm with
  | unmade h => simp [h, Trace.sockets]
  | failed h hf =>
    simp only [Trace.sockets_append, ht, h]
    rfl
  | made h hf =>
    simp only [Trace.sockets_append, ht, h]
    rfl

/-- A setup that fails closes what it has opened. -/
theorem closings_setUp (q : SocketId) :
    (setUp config type id optional o).1.closings q =
      if q = id ∧ o.socket?.isNone ∧ o.allow optional = false then 1 else 0 := by
  have ht := (aside_tryAll (aside_attempts config id optional o)).inert.closings q
  have hok := isOk_setUp config type id optional o
  have hm := making config type id optional o
  generalize setUp config type id optional o = result at hm hok ⊢
  cases hm with
  | unmade h => simp [h, Trace.closings]
  | failed h hf =>
    simp only [← hok, Trace.closings_append, ht, Trace.closings_closed, Trace.closings_opened]
    simp [h, Except.isOk, Except.toBool]
  | made h hf =>
    simp only [← hok, Trace.closings_append, ht, Trace.closings_opened]
    simp [Except.isOk, Except.toBool]

end

end Network

theorem Messaging.Mailbox.frame_service (s : Mailbox) :
    Frame s s.service.trace s.service.state := by
  cases h : s.token.cancelled with
  | true =>
    rw [s.service_of_cancelled h]
    exact .of_trace Trace.onlyOn_nil
  | false =>
    rw [s.service_eq h]
    exact s.frame_runOnce

namespace Server

structure Prepared (id : SocketId) (c d : Context) : Prop where
  config : d.config = c.config
  socket : d.socket? = some id
  buffer : d.buffer = c.buffer
  echo : d.echo = c.echo

theorem prepared_context (s : Server) (socket : ServerSocket) (c : Context) :
    Prepared s.socketId c (s.prepared socket c).2 := by
  unfold prepared prepare
  split
  · exact ⟨rfl, rfl, rfl, rfl⟩
  · unfold Messaging.subscribe
    split
    · simp only
      split
      · exact ⟨rfl, rfl, rfl, rfl⟩
      · exact ⟨rfl, rfl, rfl, rfl⟩
    · exact ⟨rfl, rfl, rfl, rfl⟩

theorem room_prepared (s : Server) (socket : ServerSocket) (c : Context) :
    (s.prepared socket c).2.room = c.room :=
  congrArg List.length (s.prepared_context socket c).buffer

section

variable {s : Server} {c : Context} (hc : Context.ofConfig s.config = .ok c)
  (socket : ServerSocket)

include hc

theorem config_prepared : (s.prepared socket c).2.config = s.config :=
  (s.prepared_context socket c).config.trans (Context.fresh_of_ofConfig hc).config

theorem echo_prepared : (s.prepared socket c).2.echo = s.config.echo :=
  (s.prepared_context socket c).echo.trans (Context.fresh_of_ofConfig hc).echo

theorem room_prepared_pos : 0 < (s.prepared socket c).2.room := by
  rw [room_prepared]
  exact (Context.fresh_of_ofConfig hc).room_pos

end

structure Served (s : Server) (c : Context) (ran : Ran Server Bool) : Prop where
  sockets : ∀ n, .server n ∉ ran.trace.sockets
  closings : ∀ n, ran.trace.closings (.server n) = 0
  context : ∃ d, ran.state.context? = some d ∧ c.Kept d
  runs : ran.state.runs = s.runs
  config : ran.state.config = s.config
  discarded : ran.state.discarded = s.discarded

theorem served (s : Server) (id : SocketId) (socket : ServerSocket) (c : Context) :
    Served s c (s.serve id socket c) := by
  unfold serve
  split
  · have hl := (s.listener id socket c).accounted_service.ledger
    have hc := (s.listener id socket c).lasting_service.context
    have hn : ∀ k m n, ¬ Trace.Among k m (.server n) := by
      rintro k m n ⟨_, -, -, h⟩
      simp at h
    exact ⟨fun n h => hn _ _ _ (hl.sockets _ h), fun n => hl.closings (hn _ _ n), ⟨_, rfl, hc⟩,
      rfl, rfl,
      rfl⟩
  · have hf := (s.mailbox id socket c).frame_service
    have hi := Trace.inert_of_onlyOn hf.trace
    refine ⟨fun n h => ?_, fun n => hi.closings _, ⟨_, rfl, hf.context⟩, rfl, rfl, rfl⟩
    have hs := hi.sockets
    simp only at h
    rw [hs] at h
    simp at h

def opens (config : Config) (socket : ServerSocket) : Bool :=
  (Context.ofConfig config).isOk && socket.obstacles.socket?.isNone

/-- Whether a run gets a socket ready and then cannot tell where it can be reached. -/
def strands (config : Config) (around : Surroundings) (socket : ServerSocket) : Bool :=
  (Context.ofConfig config).isOk && socket.obstacles.allow around.singleStack &&
    !(announce config.mode around socket).2.isOk

/-- Shutting down closes the socket of the context and nothing else, and empties the buffer. -/
theorem shutDown_eq (s : Server) {c : Context} {id : SocketId} (h : s.context? = some c)
    (hs : c.socket? = some id) :
    s.shutDown = (Trace.speak .info .server "Shutting down server..." ++
      s.token.signals.flatMap signalReport ++ [.closed id],
      { s with context? := some { c with buffer := [] } }) := by
  simp [shutDown, h, Context.close, hs]

theorem mem_made (s : Server) (b : Bool) (n : Nat) :
    .server n ∈ (if b then [s.socketId] else []) ↔ n = s.runs ∧ b = true := by
  cases b <;> simp [socketId]

theorem sockets_preface (s : Server) (around : Surroundings) (socket : ServerSocket) (c : Context) :
    (s.preface around socket c).sockets = if socket.obstacles.socket?.isNone then [s.socketId]
    else [] := by
  simp only [preface, Trace.sockets_append, s.aside_opening.inert.sockets,
    (s.aside_prepared socket c).inert.sockets,
    (Trace.inert_speak _ _ _).sockets,
    (aside_announce s.config.mode around socket).inert.sockets, setup,
    sockets_setUp, List.nil_append, List.append_nil]

theorem allow_of_setup (s : Server) (around : Surroundings) (socket : ServerSocket) :
    (s.setup around socket).2.isOk = socket.obstacles.allow around.singleStack :=
  isOk_setUp _ _ _ _ _

theorem closings_preface (s : Server) (around : Surroundings) (socket : ServerSocket) (c : Context)
    (ha : socket.obstacles.allow around.singleStack = true) (q : SocketId) :
    (s.preface around socket c).closings q = 0 := by
  simp [preface, s.aside_opening.inert.closings, (s.aside_prepared socket c).inert.closings,
    (Trace.inert_speak _ _ _).closings,
    (aside_announce s.config.mode around socket).inert.closings, setup,
    closings_setUp, ha]

/-- What a run means for the server sockets. -/
structure Account (s : Server) (around : Surroundings) (socket : ServerSocket)
    (ran : Ran Server Ending) : Prop where
  sockets : ∀ n, .server n ∈ ran.trace.sockets ↔ n = s.runs ∧ opens s.config socket = true
  closings : ∀ n, ran.trace.closings (.server n) =
    if n = s.runs ∧ opens s.config socket = true ∧
      strands s.config around socket = false then 1 else 0
  runs : ran.state.runs = s.runs + 1
  config : ran.state.config = s.config

theorem opens_of_allow {config : Config} {socket : ServerSocket} {c : Context} {optional : Bool}
    (hc : Context.ofConfig config = .ok c) (ha : socket.obstacles.allow optional = true) :
    socket.obstacles.socket?.isNone = true ∧ opens config socket = true := by
  have hn : socket.obstacles.socket?.isNone = true := by
    simp only [Obstacles.allow, Bool.and_eq_true] at ha
    exact ha.1.1.1.1
  refine ⟨hn, ?_⟩
  rw [opens, hc, hn]
  rfl

section

variable {s : Server} {around : Surroundings} {socket : ServerSocket} {c : Context}

theorem strands_of_unset {e : SetupError} (hs : (s.setup around socket).2 = .error e) :
    strands s.config around socket = false := by
  rw [strands, ← allow_of_setup s around socket, hs]
  simp [Except.isOk, Except.toBool]

theorem strands_of_unannounced {f : Fault} (hc : Context.ofConfig s.config = .ok c)
    (hs : (s.setup around socket).2 = .ok ())
    (ha : (announce s.config.mode around socket).2 = .error f) :
    strands s.config around socket = true := by
  rw [strands, ← allow_of_setup s around socket, hc, hs, ha]
  rfl

theorem strands_of_announced (ha : (announce s.config.mode around socket).2 = .ok ()) :
    strands s.config around socket = false := by
  rw [strands, ha]
  simp [Except.isOk, Except.toBool]

theorem shutDown_mainLoop (s : Server) (socket : ServerSocket) (c : Context) :
    ∃ d : Context, (s.mainLoop socket c).state.shutDown =
      (Trace.speak .info .server "Shutting down server..." ++
        (s.mainLoop socket c).state.token.signals.flatMap signalReport ++ [.closed s.socketId],
      { (s.mainLoop socket c).state with context? := some { d with buffer := [] } }) := by
  have hv := (s.up socket c).served s.socketId socket (s.prepared socket c).2
  obtain ⟨d, hd, hk⟩ := hv.context
  exact ⟨d, shutDown_eq _ hd (hk.socket.trans (s.prepared_context socket c).socket)⟩

end

theorem account (s : Server) (around : Surroundings) (socket : ServerSocket) :
    Account s around socket (s.run around socket) := by
  have hr := s.course around socket
  generalize s.run around socket = ran at hr ⊢
  have hok := allow_of_setup s around socket
  cases hr with
  | unready hc =>
    have hi := Trace.inert_speak .info .server "Starting server..."
    have ho : opens s.config socket = false := by
      rw [opens, hc]
      rfl
    refine ⟨fun n => ?_, fun n => ?_, rfl, rfl⟩
    · simp [hi.sockets, ho]
    · simp [hi.closings, ho]
  | @unset c e hc hs =>
    rw [hs] at hok
    have hn := (Context.fresh_of_ofConfig hc).trace_close
    have ho : opens s.config socket = socket.obstacles.socket?.isNone := by
      rw [opens, hc]
      rfl
    have hst := strands_of_unset hs
    refine ⟨fun n => ?_, fun n => ?_, rfl, rfl⟩
    · simp only [Trace.sockets_append, s.aside_opening.inert.sockets,
        (Trace.inert_speak _ _ _).sockets, hn, setup,
        sockets_setUp, List.nil_append, List.append_nil]
      rw [mem_made, ho]
    · simp only [Trace.closings_append, s.aside_opening.inert.closings,
        (Trace.inert_speak _ _ _).closings, hn,
        setup, closings_setUp, Trace.closings_nil, ho, hst, ← hok]
      simp [socketId, Except.isOk, Except.toBool]
  | @unannounced c f hc hs ha =>
    rw [hs] at hok
    obtain ⟨hn, ho⟩ := opens_of_allow hc hok.symm
    have hst := strands_of_unannounced hc hs ha
    refine ⟨fun n => ?_, fun n => ?_, rfl, rfl⟩
    · rw [sockets_preface, mem_made, ho, hn]
    · rw [s.closings_preface around socket c hok.symm]
      simp [hst]
  | @served c hc hs ha =>
    rw [hs] at hok
    obtain ⟨hn, ho⟩ := opens_of_allow hc hok.symm
    have hst := strands_of_announced ha
    have hv := (s.up socket c).served s.socketId socket (s.prepared socket c).2
    obtain ⟨d, hdown⟩ := s.shutDown_mainLoop socket c
    have hsk : ∀ n, .server n ∉ (s.mainLoop socket c).trace.sockets := hv.sockets
    have hcl : ∀ n, (s.mainLoop socket c).trace.closings (.server n) = 0 := hv.closings
    refine ⟨fun n => ?_, fun n => ?_, ?_, ?_⟩
    · have hlast : Trace.sockets [.closed s.socketId] = [] := rfl
      simp only [hdown, Trace.sockets_append, sockets_preface, (Trace.inert_speak _ _ _).sockets,
        (aside_signals _).inert.sockets, (aside_farewell _).inert.sockets, hlast, List.append_nil,
        List.mem_append,
        hsk n, or_false]
      rw [mem_made, hn, ho]
    · simp only [hdown, Trace.closings_append, s.closings_preface around socket c hok.symm, hcl,
        (Trace.inert_speak _ _ _).closings, (aside_signals _).inert.closings,
        (aside_farewell _).inert.closings,
        Trace.closings_closed, ho, hst]
      simp [socketId]
    · rw [hdown]
      exact hv.runs
    · rw [hdown]
      exact hv.config

def newest (before after : Server) : Option Context :=
  if before.discarded.length < after.discarded.length then after.discarded.getLast?
    else after.context?

theorem room_newest (s : Server) (around : Surroundings) (socket : ServerSocket) {c : Context}
    (hc : Context.ofConfig s.config = .ok c) :
    ∃ d, newest s (s.run around socket).state = some d ∧
      d.room = if strands s.config around socket then c.room else 0 := by
  have hr := s.course around socket
  generalize s.run around socket = ran at hr ⊢
  cases hr with
  | unready hc' =>
    rw [hc] at hc'
    simp at hc'
  | @unset c' e hc' hs =>
    have hst := strands_of_unset hs
    refine ⟨c'.close.2, ?_, ?_⟩
    · simp [newest]
    · simp [hst, Context.close, Context.room]
  | @unannounced c' f hc' hs ha =>
    rw [hc] at hc'
    cases hc'
    have hst := strands_of_unannounced hc hs ha
    refine ⟨(s.prepared socket c).2, ?_, ?_⟩
    · simp [newest, holding, begun]
    · simp [hst, room_prepared]
  | @served c' hc' hs ha =>
    rw [hc] at hc'
    cases hc'
    have hst := strands_of_announced ha
    have hv := (s.up socket c).served s.socketId socket (s.prepared socket c).2
    obtain ⟨d, hdown⟩ := s.shutDown_mainLoop socket c
    have hdis : (s.mainLoop socket c).state.discarded = s.discarded := hv.discarded
    refine ⟨{ d with buffer := [] }, ?_, ?_⟩
    · simp [newest, hdown, hdis]
    · simp [hst, Context.room]

inductive Deed
  | stop
  | run (around : Surroundings) (socket : ServerSocket)

structure Stage where
  before : Server
  around : Surroundings
  socket : ServerSocket

namespace Stage

def ran (g : Stage) : Ran Server Ending := g.before.run g.around g.socket

def strands (g : Stage) : Bool := Server.strands g.before.config g.around g.socket

end Stage

def stages (s : Server) : List Deed → List Stage
  | [] => []
  | .stop :: rest => s.stop.stages rest
  | .run around socket :: rest =>
    ⟨s, around, socket⟩ :: (s.run around socket).state.stages rest

def chronicle (s : Server) (deeds : List Deed) : Trace :=
  (s.stages deeds).flatMap fun g => g.ran.trace

theorem runs_le_stage {s : Server} {deeds : List Deed} {g : Stage} (hg : g ∈ s.stages deeds)
    {n : Nat}
    (hn : .server n ∈ g.ran.trace.sockets) : s.runs ≤ n := by
  induction deeds generalizing s with
  | nil => simp [stages] at hg
  | cons d rest ih =>
    cases d with
    | stop => exact ih (s := s.stop) hg
    | run around socket =>
      have ha := s.account around socket
      rcases List.mem_cons.1 hg with rfl | hg
      · have := ((ha.sockets n).1 hn).1
        omega
      · have := ih hg
        rw [ha.runs] at this
        omega

theorem closings_chronicle_of_lt {s : Server} (deeds : List Deed) {n : Nat} (h : n < s.runs) :
    (s.chronicle deeds).closings (.server n) = 0 := by
  induction deeds generalizing s with
  | nil => rfl
  | cons d rest ih =>
    cases d with
    | stop => exact ih (s := s.stop) h
    | run around socket =>
      have ha := s.account around socket
      have hr := ih (s := (s.run around socket).state) (by rw [ha.runs]; omega)
      have h0 : (s.run around socket).trace.closings (.server n) = 0 := by
        rw [ha.closings]
        simp [Nat.ne_of_lt h]
      simp only [chronicle, stages, List.flatMap_cons, Trace.closings_append] at hr ⊢
      rw [hr, Stage.ran, h0]

theorem closings_chronicle {s : Server} {deeds : List Deed} {g : Stage} (hg : g ∈ s.stages deeds)
    {n : Nat}
    (hn : .server n ∈ g.ran.trace.sockets) :
    (s.chronicle deeds).closings (.server n) = g.ran.trace.closings (.server n) := by
  induction deeds generalizing s with
  | nil => simp [stages] at hg
  | cons d rest ih =>
    cases d with
    | stop => exact ih (s := s.stop) hg
    | run around socket =>
      have ha := s.account around socket
      simp only [chronicle, stages, List.flatMap_cons, Trace.closings_append]
      rcases List.mem_cons.1 hg with rfl | hg
      · have h0 := ((ha.sockets n).1 hn).1
        have hl := closings_chronicle_of_lt (s := (s.run around socket).state) rest (n := n)
          (by rw [ha.runs]; omega)
        rw [chronicle] at hl
        rw [hl, Nat.add_zero]
      · have hle := runs_le_stage hg hn
        rw [ha.runs] at hle
        have h0 : (s.run around socket).trace.closings (.server n) = 0 := by
          rw [ha.closings]
          have : n ≠ s.runs := by omega
          simp [this]
        have hi := ih hg
        rw [chronicle] at hi
        rw [hi, Stage.ran, h0, Nat.zero_add]

/-- In whatever order a server is run and stopped, every run closes the socket that it has made,
once, and empties its buffer, unless the socket was ready and the server could not tell where it can
be reached; then neither happens. No other run closes that socket. -/
theorem sockets_released (s : Server) (deeds : List Deed) : ∀ g ∈ s.stages deeds,
    (∀ n, .server n ∈ g.ran.trace.sockets →
      g.ran.trace.closings (.server n) = (if g.strands then 0 else 1) ∧
      (s.chronicle deeds).closings (.server n) = g.ran.trace.closings (.server n)) ∧
    ∀ c, Context.ofConfig g.before.config = .ok c →
      ∃ d, newest g.before g.ran.state = some d ∧ d.room = if g.strands then c.room else 0 := by
  intro g hg
  refine ⟨fun n hn => ⟨?_, closings_chronicle hg hn⟩, fun c hc =>
    g.before.room_newest g.around g.socket hc⟩
  have ha := g.before.account g.around g.socket
  obtain ⟨rfl, ho⟩ := (ha.sockets n).1 hn
  have hcl := ha.closings g.before.runs
  simp only [ho, true_and] at hcl
  rw [Stage.ran, hcl, Stage.strands]
  cases Server.strands g.before.config g.around g.socket <;> rfl

theorem sockets_released_second : ((new .usual).chronicle
    [.run ⟨true, true, 0, false⟩ .silent, .stop, .run ⟨true, true, 0, false⟩ .silent]).closings
      (.server 1) = 1 := by
  have h := sockets_released (new .usual) [.run ⟨true, true, 0, false⟩ .silent, .stop,
    .run ⟨true, true, 0, false⟩ .silent] _ (List.mem_cons_of_mem _ List.mem_cons_self)
  have hn := h.1 1 (by decide +kernel)
  rw [hn.2, hn.1]
  decide +kernel

/-- A socket whose name cannot be had stays open. -/
theorem open_of_nameless : ¬ ∀ (s : Server) (around : Surroundings) (socket : ServerSocket)
    (n : Nat),
    .server n ∈ (s.run around socket).trace.sockets →
    (s.run around socket).trace.closings (.server n) = 1 := by
  intro h
  have h0 := h (new .usual) ⟨true, true, 0, false⟩
    { ServerSocket.silent with obstacles := { Obstacles.none with name? := some .bare } } 0
    (by decide +kernel)
  exact absurd h0 (by decide +kernel)

end Server

end SctpProbe
