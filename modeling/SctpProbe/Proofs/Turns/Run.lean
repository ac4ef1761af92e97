import SctpProbe.Server.Basic
set_option autoImplicit false

/-!
What setting up a socket and a whole run can come to, case by case (`making`, `Server.course`). A
run has no context, no socket, a socket that nobody hears of, or a main loop and a shutdown. What it
shows around its main loop does not concern any wait, call or request to stop (`Trace.Aside`).
-/

namespace SctpProbe

open Network

namespace Network

/-- Whether an event neither waits for, takes, sends nor stops anything, and neither makes nor
closes a socket. -/
def Event.aside : Event → Bool
  | .line _ => true
  | .log _ => true
  | .optionSet _ _ _ _ _ => true
  | .bound _ _ _ => true
  | .listening _ _ _ => true
  | .unblocked _ _ => true
  | _ => false

namespace Trace

def Aside (t : Trace) : Prop := ∀ e ∈ t, e.aside = true

variable {t u : Trace}

theorem aside_nil : Aside [] := by simp [Aside]

theorem aside_singleton {e : Event} : Aside [e] ↔ e.aside = true := by simp [Aside]

theorem aside_append : Aside (t ++ u) ↔ Aside t ∧ Aside u := by
  simp [Aside, or_imp, forall_and]

theorem aside_speak (level : Log.Level) (speaker : Log.Speaker) (message : String) :
    Aside (speak level speaker message) := by
  simp [Aside, speak, Event.aside]

/-- An event of two parts is shown in one of them. -/
theorem split_append {before after : Trace} {e : Event} (h : t ++ u = before ++ e :: after) :
    (∃ a, t = before ++ e :: a ∧ after = a ++ u) ∨ ∃ b, before = t ++ b ∧ u = b ++ e :: after := by
  rcases List.append_eq_append_iff.1 h with ⟨mid, hb, hu⟩ | ⟨mid, ht, ha⟩
  · exact .inr ⟨mid, hb, hu⟩
  · cases mid with
    | nil => exact .inr ⟨[], by simpa using ht.symm, ha.symm⟩
    | cons x rest =>
      obtain ⟨rfl, rfl⟩ := List.cons.inj ha
      exact .inl ⟨rest, ht, rfl⟩

theorem split_middle {first middle last before after : Trace} {e : Event}
    (h : first ++ middle ++ last = before ++ e :: after) (hf : e ∉ first) (hl : e ∉ last) :
    ∃ b a, middle = b ++ e :: a ∧ before = first ++ b ∧ after = a ++ last := by
  rcases split_append h with ⟨a, hm, rfl⟩ | ⟨b, -, rfl⟩
  · rcases split_append hm with ⟨a', rfl, -⟩ | ⟨b, rfl, rfl⟩
    · exact absurd (by simp) hf
    · exact ⟨b, a, rfl, rfl, rfl⟩
  · exact absurd (by simp) hl

end Trace

theorem forall_tryAll {P : Event → Prop} {as : List Attempt} (h : ∀ a ∈ as, ∀ e ∈ a.shows, P e) :
    ∀ e ∈ (tryAll as).1, P e := by
  induction as with
  | nil => simp [tryAll]
  | cons a rest ih =>
    have ha := h a List.mem_cons_self
    have hr := ih fun b hb => h b (List.mem_cons_of_mem a hb)
    unfold tryAll
    split
    · exact ha
    · intro e he
      rcases List.mem_append.1 he with he | he
      · exact ha e he
      · exact hr e he

theorem aside_tryAll {as : List Attempt} (h : ∀ a ∈ as, a.shows.Aside) : (tryAll as).1.Aside :=
  forall_tryAll h

theorem aside_attempts (config : Config) (id : SocketId) (optional : Bool) (o : Obstacles) :
    ∀ a ∈ attempts config id optional o, a.shows.Aside := by
  intro a ha
  unfold attempts at ha
  simp only [List.mem_append, List.mem_cons, List.not_mem_nil, or_false] at ha
  rcases ha with ha | rfl | rfl | rfl
  · split at ha
    · simp only [List.mem_singleton] at ha
      subst ha
      exact Trace.aside_singleton.2 rfl
    · simp at ha
  · exact Trace.aside_append.2 ⟨Trace.aside_speak _ _ _, Trace.aside_singleton.2 rfl⟩
  · exact Trace.aside_singleton.2 rfl
  · exact Trace.aside_singleton.2 rfl

/-- The ways in which the setup of a server socket can end. -/
inductive Making (config : Config) (type : Int) (id : SocketId) (optional : Bool) (o : Obstacles) :
    Trace × Except SetupError Unit → Prop
  | unmade {e : SystemError} (h : o.socket? = some e) :
    Making config type id optional o ⟨[.opened id inet6 type sctp (some e)], .error ⟨.socket, e⟩⟩
  | failed {e : SetupError} (h : o.socket? = none)
    (hf : (tryAll (attempts config id optional o)).2 = some e) :
    Making config type id optional o ⟨[.opened id inet6 type sctp none] ++
      (tryAll (attempts config id optional o)).1 ++ [.closed id], .error e⟩
  | made (h : o.socket? = none) (hf : (tryAll (attempts config id optional o)).2 = none) :
    Making config type id optional o ⟨[.opened id inet6 type sctp none] ++
      (tryAll (attempts config id optional o)).1, .ok ()⟩

theorem making (config : Config) (type : Int) (id : SocketId) (optional : Bool) (o : Obstacles) :
    Making config type id optional o (setUp config type id optional o) := by
  unfold setUp
  simp only
  split
  · next e h =>
    rw [h]
    exact .unmade h
  · next h =>
    rw [h]
    have hm := fun hf => @Making.made config type id optional o h hf
    have hl := fun e hf => @Making.failed config type id optional o e h hf
    split
    · next he =>
      rw [he] at hm
      exact hm rfl
    · next e he =>
      rw [he] at hl
      exact hl e rfl

end Network

namespace Server

def begun (s : Server) : Server := { s with runs := s.runs + 1 }

def setup (s : Server) (around : Surroundings) (socket : ServerSocket) :
    Trace × Except SetupError Unit :=
  setUp s.config s.config.mode.socketType s.socketId around.singleStack socket.obstacles

def prepared (s : Server) (socket : ServerSocket) (c : Context) : Trace × Context :=
  s.begun.prepare s.socketId socket { c with socket? := some s.socketId }

def holding (s : Server) (socket : ServerSocket) (c : Context) : Server :=
  { s.begun with context? := some (s.prepared socket c).2 }

def up (s : Server) (socket : ServerSocket) (c : Context) : Server :=
  { s.holding socket c with started := true }

def opening (s : Server) : Trace :=
  Trace.speak .info .server "Starting server..." ++
    Trace.speak .debug .server ("Using " ++ s.config.mode.name ++ " socket")

def preface (s : Server) (around : Surroundings) (socket : ServerSocket) (c : Context) : Trace :=
  s.opening ++ (s.setup around socket).1 ++ (s.prepared socket c).1 ++
    Trace.speak .debug .server ("Allocated " ++ toString (s.prepared socket c).2.room ++
      " bytes for recv buffer") ++
    (announce s.config.mode around socket).1

def mainLoop (s : Server) (socket : ServerSocket) (c : Context) : Ran Server Bool :=
  (s.up socket c).serve s.socketId socket (s.prepared socket c).2

def farewell : Except Fault Bool → Trace
  | .ok _ => Trace.speak .info .server "Server shutdown complete!"
  | .error _ => []

theorem aside_prepared (s : Server) (socket : ServerSocket) (c : Context) :
    (s.prepared socket c).1.Aside := by
  have hs : (Messaging.subscription s.socketId socket.obstacles.events?).Aside :=
    Trace.aside_singleton.2 rfl
  unfold prepared prepare
  split
  · exact Trace.aside_nil
  · unfold Messaging.subscribe
    split
    · simp only
      split
      · exact hs
      · exact Trace.aside_append.2 ⟨hs, Trace.aside_speak _ _ _⟩
    · exact Trace.aside_nil

theorem aside_announce (mode : Mode) (around : Surroundings) (socket : ServerSocket) :
    (announce mode around socket).1.Aside := by
  unfold announce
  repeat' split
  all_goals simp [Trace.Aside, Event.aside]

theorem aside_opening (s : Server) : s.opening.Aside :=
  Trace.aside_append.2 ⟨Trace.aside_speak _ _ _, Trace.aside_speak _ _ _⟩

theorem aside_signals (ns : List Int) : Trace.Aside (ns.flatMap signalReport) := by
  intro e he
  obtain ⟨n, -, hn⟩ := List.mem_flatMap.1 he
  simp only [signalReport, Trace.speak, List.mem_append, List.mem_singleton] at hn
  rcases hn with rfl | hn
  · rfl
  · split at hn
    · simp only [List.mem_singleton] at hn
      subst hn
      rfl
    · simp at hn

theorem aside_farewell (result : Except Fault Bool) : (farewell result).Aside := by
  unfold farewell
  split
  · exact Trace.aside_speak _ _ _
  · exact Trace.aside_nil

def status (usable : Bool) : Ending := .status (if usable then 0 else 1)

/-- The ways in which a run can end. -/
inductive Course (s : Server) (around : Surroundings) (socket : ServerSocket) :
    Ran Server Ending → Prop
  | unready {f : Fault} (hc : Context.ofConfig s.config = .error f) :
    Course s around socket ⟨Trace.speak .info .server "Starting server...", s.begun, .error f⟩
  | unset {c : Context} {e : SetupError} (hc : Context.ofConfig s.config = .ok c)
    (hs : (s.setup around socket).2 = .error e) :
    Course s around socket ⟨s.opening ++ (s.setup around socket).1 ++
      Trace.speak .error .server ("Error while initializing the server: " ++ e.message) ++
        c.close.1,
      { s.begun with discarded := s.discarded ++ [c.close.2] }, .ok (.exit 1)⟩
  | unannounced {c : Context} {f : Fault} (hc : Context.ofConfig s.config = .ok c)
    (hs : (s.setup around socket).2 = .ok ())
    (ha : (announce s.config.mode around socket).2 = .error f) :
    Course s around socket ⟨s.preface around socket c, s.holding socket c, .error f⟩
  | served {c : Context} (hc : Context.ofConfig s.config = .ok c)
    (hs : (s.setup around socket).2 = .ok ())
    (ha : (announce s.config.mode around socket).2 = .ok ()) :
    Course s around socket
      ⟨s.preface around socket c ++ (s.mainLoop socket c).trace ++
      (s.mainLoop socket c).state.shutDown.1 ++
        farewell (s.mainLoop socket c).result, (s.mainLoop socket c).state.shutDown.2,
        (s.mainLoop socket c).result.map status⟩

theorem serveAndShutDown_eq (s : Server) (id : SocketId) (socket : ServerSocket) (c : Context) :
    s.serveAndShutDown id socket c =
      ⟨(s.serve id socket c).trace ++ (s.serve id socket c).state.shutDown.1 ++
        farewell (s.serve id socket c).result, (s.serve id socket c).state.shutDown.2,
        (s.serve id socket c).result.map status⟩ := by
  unfold serveAndShutDown
  simp only
  split
  · next h => simp [h, farewell, Except.map]
  · next h => simp [h, farewell, Except.map, status]

theorem course (s : Server) (around : Surroundings) (socket : ServerSocket) :
    Course s around socket (s.run around socket) := by
  unfold run
  simp only
  split
  · next f hc => exact .unready hc
  · next c hc =>
    unfold launch
    simp only
    split
    · next e hs =>
      have hr : Course s around socket _ := .unset hc hs
      simpa [Ran.after, opening, setup, begun] using hr
    · next hs =>
      unfold proceed
      simp only
      split
      · next f ha =>
        have hr := Course.unannounced hc hs ha
        simpa [Ran.after, opening, setup, begun, preface, holding, prepared, announce] using hr
      · next ha =>
        have hr := Course.served hc hs ha
        rw [serveAndShutDown_eq]
        simpa [Ran.after, opening, setup, begun, preface, holding, prepared, announce, mainLoop,
          up] using hr

theorem run_eq (s : Server) (around : Surroundings) (socket : ServerSocket) :
    s.run around socket =
      match Context.ofConfig s.config with
      | .error f => ⟨Trace.speak .info .server "Starting server...", s.begun, .error f⟩
      | .ok c =>
        match (s.setup around socket).2 with
        | .error e => ⟨s.opening ++ (s.setup around socket).1 ++
            Trace.speak .error .server ("Error while initializing the server: " ++ e.message) ++
            c.close.1, { s.begun with discarded := s.discarded ++ [c.close.2] }, .ok (.exit 1)⟩
        | .ok _ =>
          match (announce s.config.mode around socket).2 with
          | .error f => ⟨s.preface around socket c, s.holding socket c, .error f⟩
          | .ok _ => ⟨s.preface around socket c ++ (s.mainLoop socket c).trace ++
              (s.mainLoop socket c).state.shutDown.1 ++ farewell (s.mainLoop socket c).result,
              (s.mainLoop socket c).state.shutDown.2, (s.mainLoop socket c).result.map status⟩ := by
  have h := s.course around socket
  generalize s.run around socket = ran at h ⊢
  cases h with
  | unready hc => simp [hc]
  | unset hc hs => simp [hc, hs]
  | unannounced hc hs ha => simp [hc, hs, ha]
  | served hc hs ha => simp [hc, hs, ha]

end Server

end SctpProbe
