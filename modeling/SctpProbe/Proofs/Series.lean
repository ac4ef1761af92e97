import SctpProbe.Proofs.Laws
import SctpProbe.Proofs.Stopping
set_option autoImplicit false

namespace SctpProbe

open Network

namespace Network

/-- Whether an event announces where the server can be reached. Nothing else is told in two ways. -/
def Event.announces : Event → Bool
  | .log e => e.styled?.isSome
  | _ => false

/-- A trace without waits, without calls that take or send anything, and without announcements. -/
def Trace.Plain (t : Trace) : Prop := ∀ e ∈ t, e.isTraffic = false ∧ e.announces = false

namespace Trace

variable {t u : Trace}

theorem plain_nil : Plain [] := by simp [Plain]

theorem plain_append : Plain (t ++ u) ↔ Plain t ∧ Plain u := List.forall_mem_append

theorem plain_singleton {e : Event} :
    Plain [e] ↔ e.isTraffic = false ∧ e.announces = false := by simp [Plain]

theorem plain_speak (level : Log.Level) (speaker : Log.Speaker) (message : String) :
    Plain (speak level speaker message) := by
  simp [Plain, speak, Event.isTraffic, Event.announces, Log.Entry.plain]

theorem Plain.filter (h : t.Plain) : t.filter Event.announces = [] :=
  List.filter_eq_nil_iff.2 fun e he => by simp [(h e he).2]

end Trace

def Event.ofSetup : Event → Bool
  | .opened _ _ _ _ _ => true
  | .optionSet _ _ _ _ _ => true
  | .bound _ _ _ => true
  | .listening _ _ _ => true
  | .unblocked _ _ => true
  | .closed _ => true
  | .log e => e.speaker == .sockets && e.styled?.isNone
  | _ => false

theorem ofSetup_attempts (config : Config) (id : SocketId) (optional : Bool) (o : Obstacles) :
    ∀ a ∈ attempts config id optional o, ∀ e ∈ a.shows, e.ofSetup = true := by
  intro a ha
  unfold attempts at ha
  simp only [List.mem_append, List.mem_cons, List.not_mem_nil, or_false] at ha
  rcases ha with ha | rfl | rfl | rfl
  · split at ha
    · simp only [List.mem_singleton] at ha
      subst ha
      simp [Event.ofSetup]
    · simp at ha
  · simp [Trace.speak, Log.Entry.plain, Event.ofSetup]
  · simp [Event.ofSetup]
  · simp [Event.ofSetup]

theorem ofSetup_setUp (config : Config) (type : Int) (id : SocketId) (optional : Bool)
    (o : Obstacles) : ∀ e ∈ (setUp config type id optional o).1, e.ofSetup = true := by
  have ht := forall_tryAll (ofSetup_attempts config id optional o)
  have hm := making config type id optional o
  generalize setUp config type id optional o = result at hm ⊢
  cases hm with
  | unmade => simp [Event.ofSetup]
  | failed => simpa [Event.ofSetup, or_imp, forall_and] using ht
  | made => simpa [Event.ofSetup] using ht

theorem plain_setUp (config : Config) (type : Int) (id : SocketId) (optional : Bool)
    (o : Obstacles) : (setUp config type id optional o).1.Plain := by
  intro e he
  have h := ofSetup_setUp config type id optional o e he
  cases e <;> simp_all [Event.ofSetup, Event.isTraffic, Event.announces]

end Network

def ServerSocket.address (socket : ServerSocket) : Except Fault String :=
  (Peer.ofSocketAddress socket.name).bind (Server.addressShown socket.name)

namespace Server

/-- What a run shows before it announces where the server can be reached. -/
def groundwork (s : Server) (around : Surroundings) (socket : ServerSocket) (c : Context) : Trace :=
  s.opening ++ (s.setup around socket).1 ++ (s.prepared socket c).1 ++
    Trace.speak .debug .server ("Allocated " ++ toString (s.prepared socket c).2.room ++
      " bytes for recv buffer")

theorem preface_eq (s : Server) (around : Surroundings) (socket : ServerSocket) (c : Context) :
    s.preface around socket c =
      s.groundwork around socket c ++ (announce s.config.mode around socket).1 := rfl

theorem plain_groundwork (s : Server) (around : Surroundings) (socket : ServerSocket)
    (c : Context) : (s.groundwork around socket c).Plain := by
  have hprepared : (s.prepared socket c).1.Plain := by
    have hs : (Messaging.subscription s.socketId socket.obstacles.events?).Plain :=
      Trace.plain_singleton.2 ⟨rfl, rfl⟩
    unfold prepared prepare
    split
    · exact Trace.plain_nil
    · unfold Messaging.subscribe
      split
      · simp only
        split
        · exact hs
        · exact Trace.plain_append.2 ⟨hs, Trace.plain_speak _ _ _⟩
      · exact Trace.plain_nil
  have hopening : s.opening.Plain :=
    Trace.plain_append.2 ⟨Trace.plain_speak _ _ _, Trace.plain_speak _ _ _⟩
  exact Trace.plain_append.2 ⟨Trace.plain_append.2 ⟨Trace.plain_append.2 ⟨hopening,
    plain_setUp _ _ _ _ _⟩, hprepared⟩, Trace.plain_speak _ _ _⟩

theorem plain_windup (id : SocketId) (signals : List Int) : (windup id signals).Plain := by
  have hreport : ∀ n, (signalReport n).Plain := by
    intro n
    unfold signalReport
    split
    · exact Trace.plain_append.2 ⟨Trace.plain_speak _ _ _, Trace.plain_speak _ _ _⟩
    · exact Trace.plain_append.2 ⟨Trace.plain_speak _ _ _, Trace.plain_nil⟩
  have hreports : Trace.Plain (signals.flatMap signalReport) := by
    intro e he
    obtain ⟨n, -, hn⟩ := List.mem_flatMap.1 he
    exact hreport n e hn
  have hclosed : Trace.Plain [.closed id] := Trace.plain_singleton.2 ⟨rfl, rfl⟩
  exact Trace.plain_append.2 ⟨Trace.plain_append.2 ⟨Trace.plain_append.2 ⟨Trace.plain_speak _ _ _,
    hreports⟩, hclosed⟩, Trace.plain_speak _ _ _⟩

theorem announce_of_isOk {mode : Mode} {around : Surroundings} {socket : ServerSocket}
    (h : (announce mode around socket).2.isOk = true) :
    (∀ e ∈ (announce mode around socket).1, e.isTraffic = false) ∧
    ∀ address, socket.address = .ok address →
      (announce mode around socket).1 = [.log (announcement mode address)] := by
  unfold announce at h ⊢
  unfold ServerSocket.address
  split
  · next hn => simp [hn, Except.isOk, Except.toBool] at h
  · next hn =>
    cases hp : Peer.ofSocketAddress socket.name with
    | error f => simp [hn, hp, Except.isOk, Except.toBool] at h
    | ok peer =>
      cases ha : addressShown socket.name peer with
      | error f =>
        simp only [Except.bind, ha]
        refine ⟨?_, by simp⟩
        split <;> simp
      | ok address => simp [Except.bind, ha, Event.isTraffic]

def followed (s : Server) : List Deed → Server
  | [] => s
  | .stop :: rest => s.stop.followed rest
  | .run around socket :: rest => (s.run around socket).state.followed rest

def Deed.isStop : Deed → Bool
  | .stop => true
  | .run _ _ => false

theorem followed_append (s : Server) (first rest : List Deed) :
    s.followed (first ++ rest) = (s.followed first).followed rest := by
  induction first generalizing s with
  | nil => rfl
  | cons d deeds ih => cases d <;> exact ih _

theorem chronicle_run (s : Server) (around : Surroundings) (socket : ServerSocket)
    (rest : List Deed) : s.chronicle (.run around socket :: rest) =
      (s.run around socket).trace ++ (s.run around socket).state.chronicle rest := by
  simp [chronicle, stages, Stage.ran]

theorem cancelled_followed (s : Server) (deeds : List Deed) :
    (s.followed deeds).token.cancelled =
      (s.token.cancelled || deeds.any Deed.isStop || (s.chronicle deeds).any Event.isStop) := by
  induction deeds generalizing s with
  | nil => simp [followed, chronicle, stages]
  | cons d rest ih =>
    cases d with
    | stop =>
      have hc : s.stop.token.cancelled = true := rfl
      rw [followed, ih, hc]
      simp [Deed.isStop]
    | run around socket =>
      rw [followed, ih, (s.heeds_run around socket).cancelled, chronicle_run]
      simp only [List.any_cons, List.any_append, Deed.isStop, Bool.false_or]
      ac_rfl

theorem config_followed (s : Server) (deeds : List Deed) :
    (s.followed deeds).config = s.config := by
  induction deeds generalizing s with
  | nil => rfl
  | cons d rest ih =>
    cases d with
    | stop => exact ih s.stop
    | run around socket => exact (ih _).trans (s.account around socket).config

theorem runs_le_followed (s : Server) (deeds : List Deed) : s.runs ≤ (s.followed deeds).runs := by
  induction deeds generalizing s with
  | nil => exact Nat.le_refl _
  | cons d rest ih =>
    cases d with
    | stop => exact ih s.stop
    | run around socket =>
      have hr := ih (s.run around socket).state
      rw [(s.account around socket).runs] at hr
      exact Nat.le_of_succ_le hr

/-- No socket of an earlier run has the number of a later one. -/
theorem socketId_followed (s : Server) (deeds : List Deed) :
    (s.followed deeds).socketId ∉ (s.chronicle deeds).sockets := by
  suffices h : ∀ n, .server n ∈ (s.chronicle deeds).sockets → n < (s.followed deeds).runs from
    fun hm => Nat.lt_irrefl _ (h _ hm)
  induction deeds generalizing s with
  | nil => simp [chronicle, stages, Trace.sockets]
  | cons d rest ih =>
    cases d with
    | stop => exact ih s.stop
    | run around socket =>
      intro n hn
      have ha := s.account around socket
      rw [chronicle_run, Trace.sockets_append, List.mem_append] at hn
      rcases hn with hn | hn
      · have hle := runs_le_followed (s.run around socket).state rest
        rw [ha.runs] at hle
        rw [((ha.sockets n).1 hn).1]
        exact hle
      · exact ih _ n hn

/-- What becomes of a run of a server that has been told to stop before: its socket is made,
announced and closed again. -/
structure Idle (s : Server) (around : Surroundings) (socket : ServerSocket)
    (ran : Ran Server Ending) : Prop where
  result : ran.result = .ok (.status 0)
  sockets : ran.trace.sockets = [s.socketId]
  closings : ∀ q, ran.trace.closings q = if q = s.socketId then 1 else 0
  quiet : ∀ e ∈ ran.trace, e.isTraffic = false
  announced : ∀ address, socket.address = .ok address →
    ran.trace.filter Event.announces = [.log (announcement s.config.mode address)]
  order : ∃ making, s.socketId ∈ Trace.sockets making ∧
    ran.trace = making ++ (announce s.config.mode around socket).1 ++
      windup s.socketId s.token.signals

theorem mainLoop_idle {s : Server} (h : s.token.cancelled = true) (socket : ServerSocket)
    (c : Context) : (s.mainLoop socket c).result = .ok true ∧
      (s.mainLoop socket c).state.token = s.token := by
  unfold mainLoop serve
  split
  · rw [Stream.Listener.service_of_cancelled _ h]
    exact ⟨rfl, rfl⟩
  · rw [Messaging.Mailbox.service_of_cancelled _ h]
    exact ⟨rfl, rfl⟩

section

variable {s : Server} {around : Surroundings} {socket : ServerSocket}

theorem trace_of_cancelled {c : Context} (h : s.token.cancelled = true) :
    s.preface around socket c ++ (s.mainLoop socket c).trace ++
        (s.mainLoop socket c).state.shutDown.1 ++ farewell (s.mainLoop socket c).result =
      s.groundwork around socket c ++ (announce s.config.mode around socket).1 ++
        windup s.socketId s.token.signals := by
  obtain ⟨hresult, htoken⟩ := mainLoop_idle h socket c
  obtain ⟨d, hdown⟩ := s.shutDown_mainLoop socket c
  rw [mainLoop_of_cancelled h, hdown, hresult, htoken, preface_eq, farewell, windup]
  simp only [List.append_nil, List.append_assoc]

theorem idle_run (h : s.token.cancelled = true) (hstart : starts s.config around socket = true) :
    Idle s around socket (s.run around socket) := by
  obtain ⟨c, hc, hallow, hann, hrun⟩ := run_of_starts hstart
  rw [hrun]
  obtain ⟨htraffic, hentry⟩ := announce_of_isOk hann
  have hground := s.plain_groundwork around socket c
  have hwind := plain_windup s.socketId s.token.signals
  have haside := aside_announce s.config.mode around socket
  have hsockets : (s.groundwork around socket c).sockets = [s.socketId] := by
    have hp := s.sockets_preface around socket c
    rw [preface_eq, Trace.sockets_append, haside.inert.sockets, List.append_nil,
      (opens_of_allow hc hallow).1] at hp
    exact hp
  have hground0 (q : SocketId) : (s.groundwork around socket c).closings q = 0 := by
    have hp := s.closings_preface around socket c hallow q
    rw [preface_eq, Trace.closings_append] at hp
    omega
  have hwind1 (q : SocketId) : (windup s.socketId s.token.signals).closings q =
      if q = s.socketId then 1 else 0 := by
    simp only [windup, Trace.closings_append, (Trace.inert_speak _ _ _).closings,
      (aside_signals _).inert.closings, Trace.closings_closed, Nat.zero_add, Nat.add_zero]
  have hwind0 : (windup s.socketId s.token.signals).sockets = [] := by
    have hclosed : Trace.sockets [.closed s.socketId] = [] := rfl
    simp only [windup, Trace.sockets_append, (Trace.inert_speak _ _ _).sockets,
      (aside_signals _).inert.sockets, hclosed, List.append_nil]
  refine ⟨?_, ?_, fun q => ?_, ?_, fun address hshown => ?_, ?_⟩
  · simp [(mainLoop_idle h socket c).1, Except.map, status]
  · simp only [trace_of_cancelled h, Trace.sockets_append, hsockets, haside.inert.sockets,
      hwind0, List.append_nil]
  · simp only [trace_of_cancelled h, Trace.closings_append, hground0, haside.inert.closings,
      hwind1, Nat.zero_add]
  · simp only [trace_of_cancelled h, List.mem_append]
    rintro e ((he | he) | he)
    · exact (hground e he).1
    · exact htraffic e he
    · exact (hwind e he).1
  · simp only [trace_of_cancelled h, List.filter_append, hground.filter, hwind.filter,
      hentry address hshown]
    rfl
  · exact ⟨s.groundwork around socket c, by simp [hsockets], trace_of_cancelled h⟩

/-- A run that gets no socket leaves the server as it was. -/
theorem run_of_obstacle (hready : (Context.ofConfig s.config).isOk = true)
    (hallow : socket.obstacles.allow around.singleStack = false) :
    (s.run around socket).result = .ok (.exit 1) ∧
      (s.run around socket).state.context? = s.context? ∧
      (s.run around socket).state.started = s.started ∧
      (s.run around socket).state.token = s.token := by
  have hset := allow_of_setup s around socket
  have hr := s.course around socket
  generalize s.run around socket = ran at hr ⊢
  cases hr with
  | unready hc => simp [hc, Except.isOk, Except.toBool] at hready
  | unset hc hs => exact ⟨rfl, rfl, rfl, rfl⟩
  | unannounced hc hs ha => simp [hs, hallow, Except.isOk, Except.toBool] at hset
  | served hc hs ha => simp [hs, hallow, Except.isOk, Except.toBool] at hset

end

/-- In whatever order a server is run and stopped, it knows that it has been told to stop from the
moment that anybody has done so. After that a run that starts is idle, with a socket of its own, and
a run whose setup fails leaves with one and changes nothing. -/
theorem stop_lasts (s : Server) :
    (∀ deeds, (s.followed deeds).token.cancelled =
      (s.token.cancelled || deeds.any Deed.isStop || (s.chronicle deeds).any Event.isStop)) ∧
    ∀ first, (s.followed first).token.cancelled = true → ∀ rest,
      (s.followed (first ++ rest)).token.cancelled = true ∧
      (s.followed (first ++ rest)).socketId ∉ (s.chronicle (first ++ rest)).sockets ∧
      ∀ around socket,
        (starts s.config around socket = true →
          Idle (s.followed (first ++ rest)) around socket
            ((s.followed (first ++ rest)).run around socket)) ∧
        ((Context.ofConfig s.config).isOk = true →
          socket.obstacles.allow around.singleStack = false →
          ((s.followed (first ++ rest)).run around socket).result = .ok (.exit 1) ∧
          ((s.followed (first ++ rest)).run around socket).state.context? =
            (s.followed (first ++ rest)).context? ∧
          ((s.followed (first ++ rest)).run around socket).state.started =
            (s.followed (first ++ rest)).started) := by
  refine ⟨s.cancelled_followed, fun first hfirst rest => ?_⟩
  have hcancelled : (s.followed (first ++ rest)).token.cancelled = true := by
    rw [followed_append, cancelled_followed, hfirst]
    simp
  refine ⟨hcancelled, s.socketId_followed _, fun around socket => ⟨fun hstart => ?_,
    fun hready hallow => ?_⟩⟩
  · rw [← s.config_followed (first ++ rest)] at hstart
    exact idle_run hcancelled hstart
  · rw [← s.config_followed (first ++ rest)] at hready
    obtain ⟨hresult, hcontext, hstarted, -⟩ := run_of_obstacle hready hallow
    exact ⟨hresult, hcontext, hstarted⟩

def unbound : ServerSocket :=
  { ServerSocket.silent with obstacles := { Obstacles.none with bind? := some .bare } }

theorem stop_lasts_unbound :
    (((new .usual).followed [.stop]).run ⟨true, true, 0, false⟩ unbound).result =
      .ok (.exit 1) ∧
    (((new .usual).followed [.stop, .run ⟨true, true, 0, false⟩ unbound]).run
      ⟨true, true, 0, false⟩ .silent).result = .ok (.status 0) := by
  obtain ⟨-, h⟩ := stop_lasts (new .usual)
  obtain ⟨-, -, hfirst⟩ := h [.stop] rfl []
  obtain ⟨-, -, hsecond⟩ := h [.stop] rfl [.run ⟨true, true, 0, false⟩ unbound]
  refine ⟨?_, ?_⟩
  · exact ((hfirst ⟨true, true, 0, false⟩ unbound).2 (by decide +kernel) (by decide +kernel)).1
  · exact ((hsecond ⟨true, true, 0, false⟩ .silent).1 (by decide +kernel)).result

end Server

end SctpProbe
