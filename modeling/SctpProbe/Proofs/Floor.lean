import SctpProbe.Proofs.Release
set_option autoImplicit false

/-!
One session at a time. The floor is free, or a connection has it from its arrival until it is
closed. Whatever happens on a socket while a connection has the floor happens on that connection
(`Floor.Move`), so that a trace that can be followed like this does one thing after the other
(`Server.one_at_a_time`).
-/

namespace SctpProbe

open Network

namespace Network

def Event.socket? : Event → Option SocketId
  | .line _ => none
  | .log _ => none
  | .waited s _ _ => some s
  | .accepted s _ _ => some s
  | .acceptFailed s _ => some s
  | .received s _ _ => some s
  | .receiveFailed s _ => some s
  | .receivedMessage s _ _ _ _ => some s
  | .receiveMessageFailed s _ => some s
  | .sent s _ => some s
  | .sendFailed s _ => some s
  | .sentMessage s _ _ _ _ _ => some s
  | .opened s _ _ _ _ => some s
  | .optionSet s _ _ _ _ => some s
  | .bound s _ _ => some s
  | .listening s _ _ => some s
  | .unblocked s _ => some s
  | .closed s => some s
  | .ended s => some s
  | .stopped => none
  | .signalled _ => none

def Event.isAccept : Event → Bool
  | .accepted _ _ _ => true
  | _ => false

def Event.isClose : Event → Bool
  | .closed _ => true
  | _ => false

def Event.concerns (s : SocketId) (e : Event) : Bool :=
  e.socket?.all (· == s) && !e.isAccept

def Trace.Concerns (s : SocketId) (t : Trace) : Prop := ∀ e ∈ t, e.concerns s = true

namespace Trace

variable {s : SocketId} {t u : Trace}

theorem concerns_append : Concerns s (t ++ u) ↔ Concerns s t ∧ Concerns s u := by
  simp [Concerns, or_imp, forall_and]

theorem concerns_singleton {e : Event} : Concerns s [e] ↔ e.concerns s = true := by
  simp [Concerns]

theorem concerns_speak (level : Log.Level) (speaker : Log.Speaker) (message : String) :
    Concerns s (speak level speaker message) := by
  simp [Concerns, speak, Event.concerns, Event.socket?, Event.isAccept]

end Trace

theorem Event.concerns_of_onlyOn {s : SocketId} {e : Event} (h : e.onlyOn s = true) :
    e.concerns s = true ∧ e.isClose = false := by
  cases e <;> simp_all [onlyOn, concerns, socket?, isAccept, isClose]

/-- Who has the floor: nobody, the connection to come being the `n`-th, or the `n`-th connection. -/
inductive Floor
  | free (n : Nat)
  | taken (n : Nat)
  deriving DecidableEq, Repr

namespace Floor

/-- What an event can do to the floor. `l` is the socket that hands out the connections. -/
inductive Move (l : SocketId) : Floor → Event → Floor → Prop
  | arrival (n : Nat) (sender : Value) :
    Move l (free n) (.accepted l (.connection n) sender) (taken n)
  | departure (n : Nat) : Move l (taken n) (.closed (.connection n)) (free (n + 1))
  | idle {n : Nat} {e : Event} (h : e.concerns l = true) : Move l (free n) e (free n)
  | busy {n : Nat} {e : Event} (h : e.concerns (.connection n) = true) (hc : e.isClose = false) :
    Move l (taken n) e (taken n)

inductive Follows (l : SocketId) : Floor → Trace → Floor → Prop
  | nil (f : Floor) : Follows l f [] f
  | cons {f g h : Floor} {e : Event} {t : Trace} (m : Move l f e g) (k : Follows l g t h) :
    Follows l f (e :: t) h

variable {l : SocketId} {f g h : Floor} {t u : Trace} {e : Event} {n m : Nat}

theorem Follows.trans (k : Follows l f t g) (k' : Follows l g u h) : Follows l f (t ++ u) h := by
  induction k with
  | nil f => exact k'
  | cons m k ih => exact .cons m (ih k')

theorem Follows.split (k : Follows l f (t ++ u) h) : ∃ g, Follows l f t g ∧ Follows l g u h := by
  induction t generalizing f with
  | nil => exact ⟨f, .nil f, k⟩
  | cons e rest ih =>
    cases k with
    | cons m k =>
      obtain ⟨g, hg, hh⟩ := ih k
      exact ⟨g, .cons m hg, hh⟩

theorem Follows.single (m : Move l f e g) : Follows l f [e] g := .cons m (.nil g)

theorem follows_free (h : t.Concerns l) (n : Nat) :
    Follows l (free n) t (free n) := by
  induction t with
  | nil => exact .nil _
  | cons e rest ih =>
    exact .cons (.idle (h e List.mem_cons_self)) (ih fun x hx => h x (List.mem_cons_of_mem e hx))

theorem follows_taken (h : t.OnlyOn (.connection n)) (l : SocketId) :
    Follows l (taken n) t (taken n) := by
  induction t with
  | nil => exact .nil _
  | cons e rest ih =>
    obtain ⟨hs, hc⟩ := Event.concerns_of_onlyOn (h e List.mem_cons_self)
    exact .cons (.busy hs hc) (ih fun x hx => h x (List.mem_cons_of_mem e hx))

theorem follows_onlyOn (h : t.OnlyOn l) (n : Nat) : Follows l (free n) t (free n) :=
  follows_free (fun e he => (Event.concerns_of_onlyOn (h e he)).1) n

/-- The number of connections that have come and gone. -/
def past : Floor → Nat
  | free n => n
  | taken n => n

/-- What a trace has left behind: all that has been accepted is closed again but for the connection
that has the floor, which is still open. -/
structure Record (l : SocketId) (t : Trace) (f : Floor) : Prop where
  closed : ∀ s, .closed s ∈ t → s = l ∨ ∃ k, k < f.past ∧ s = .connection k
  accepted : ∀ s c v, .accepted s c v ∈ t → .closed c ∈ t ∨ ∃ k, f = taken k ∧ c = .connection k
  holder : ∀ k, f = taken k → ∃ v, .accepted l (.connection k) v ∈ t

theorem socket?_of_concerns {s : SocketId} (h : e.concerns s = true) {q : SocketId}
    (hq : e.socket? = some q) : q = s := by
  simp only [Event.concerns, hq, Option.all_some, Bool.and_eq_true, beq_iff_eq] at h
  exact h.1

theorem not_accepted_of_concerns {s q c : SocketId} {v : Value} (h : e.concerns s = true) :
    e ≠ .accepted q c v := by
  rintro rfl
  simp [Event.concerns, Event.isAccept] at h

theorem record_nil (l : SocketId) (n : Nat) : Record l [] (free n) :=
  ⟨by simp, by simp, by simp⟩

/-- An event that hands out no connection leaves those that have been handed out as they are. -/
theorem Record.accepted_append {s : SocketId} (r : Record l t f) (he : e.concerns s = true)
    {q c : SocketId} {v : Value} (ha : .accepted q c v ∈ t ++ [e]) :
    .closed c ∈ t ++ [e] ∨ ∃ k, f = taken k ∧ c = .connection k := by
  have hm : .accepted q c v ∈ t := by
    simpa [(not_accepted_of_concerns (q := q) (c := c) (v := v) he).symm] using ha
  exact (r.accepted q c v hm).imp_left (List.mem_append_left _)

theorem Record.append (r : Record l t f) (m : Move l f e g) : Record l (t ++ [e]) g := by
  cases m with
  | arrival n v =>
    refine ⟨fun s hs => ?_, fun s c w ha => ?_, fun k hk => ?_⟩
    · exact r.closed s (by simpa using hs)
    · rcases List.mem_append.1 ha with ha | ha
      · rcases r.accepted s c w ha with hc | ⟨k, hk, -⟩
        · exact .inl (List.mem_append_left _ hc)
        · simp at hk
      · simp only [List.mem_singleton, Event.accepted.injEq] at ha
        exact .inr ⟨n, rfl, ha.2.1⟩
    · simp only [taken.injEq] at hk
      subst hk
      exact ⟨v, by simp⟩
  | departure n =>
    refine ⟨fun s hs => ?_, fun s c w ha => .inl ?_, fun k hk => by simp at hk⟩
    · rcases List.mem_append.1 hs with hs | hs
      · refine (r.closed s hs).imp_right ?_
        rintro ⟨k, hk, rfl⟩
        exact ⟨k, Nat.lt_succ_of_lt hk, rfl⟩
      · simp only [List.mem_singleton, Event.closed.injEq] at hs
        exact .inr ⟨n, Nat.lt_succ_self n, hs⟩
    · rcases r.accepted s c w (by simpa using ha) with hc | ⟨k, hk, rfl⟩
      · exact List.mem_append_left _ hc
      · simp only [taken.injEq] at hk
        simp [hk]
  | idle he =>
    refine ⟨fun s hs => ?_, fun s c w ha => r.accepted_append he ha, fun k hk => by simp at hk⟩
    rcases List.mem_append.1 hs with hs | hs
    · exact r.closed s hs
    · rw [List.mem_singleton] at hs
      subst hs
      exact .inl (socket?_of_concerns he rfl)
  | busy he hc =>
    refine ⟨fun s hs => ?_, fun s c w ha => r.accepted_append he ha, fun k hk => ?_⟩
    · rcases List.mem_append.1 hs with hs | hs
      · exact r.closed s hs
      · rw [List.mem_singleton] at hs
        subst hs
        simp [Event.isClose] at hc
    · obtain ⟨v, hv⟩ := r.holder k hk
      exact ⟨v, List.mem_append_left _ hv⟩

theorem Record.extend (r : Record l t f) (k : Follows l f u g) : Record l (t ++ u) g := by
  induction k generalizing t with
  | nil f =>
    rw [List.append_nil]
    exact r
  | cons m k ih =>
    have h := ih (r.append m)
    rwa [List.append_assoc] at h

theorem record (k : Follows l (free n) t f) : Record l t f := (record_nil l n).extend k

theorem eq_taken (k : Follows l (taken n) t f) (hc : .closed (.connection n) ∉ t) :
    f = taken n := by
  induction t with
  | nil =>
    cases k
    rfl
  | cons e rest ih =>
    cases k with
    | cons m k =>
      cases m with
      | departure => simp at hc
      | busy => exact ih k fun h => hc (List.mem_cons_of_mem e h)

end Floor

namespace Trace

/-- After a connection has been accepted nothing happens on the socket it came from until it is
closed; whatever happens on a connection happens after it has been accepted and before it is closed;
and nothing is accepted before all that has been accepted is closed. -/
structure Orderly (l : SocketId) (t : Trace) : Prop where
  held : ∀ before s c v between e after,
    t = before ++ .accepted s c v :: (between ++ e :: after) → e.socket? = some l →
    .closed c ∈ between
  within : ∀ before e after n, t = before ++ e :: after → e.socket? = some (.connection n) →
    (∃ v, .accepted l (.connection n) v ∈ before) ∧ .closed (.connection n) ∉ before
  single : ∀ before s c v after, t = before ++ .accepted s c v :: after →
    s = l ∧ ∀ s' c' v', .accepted s' c' v' ∈ before → .closed c' ∈ before

theorem orderly_of_follows {n k : Nat} {f : Floor} {t : Trace}
    (h : Floor.Follows (.server k) (.free n) t f) : Orderly (.server k) t := by
  refine ⟨?_, ?_, ?_⟩
  · rintro before s c v between e after rfl he
    obtain ⟨g, -, hg⟩ := h.split
    cases hg with
    | cons m hg =>
      cases m with
      | idle hi => simp [Event.concerns, Event.isAccept] at hi
      | busy hi => simp [Event.concerns, Event.isAccept] at hi
      | arrival m v =>
        refine Classical.byContradiction fun hc => ?_
        obtain ⟨g, hb, hr⟩ := hg.split
        rw [Floor.eq_taken hb hc] at hr
        cases hr with
        | cons m hr =>
          cases m with
          | departure => simp [Event.socket?] at he
          | busy hi => simpa using Floor.socket?_of_concerns hi he
  · rintro before e after m rfl he
    obtain ⟨g, hb, hg⟩ := h.split
    have hr := Floor.record hb
    have hopen : ∀ j, g = .taken j → j = m →
        (∃ v, .accepted (.server k) (.connection m) v ∈ before) ∧
        .closed (.connection m) ∉ before := by
      rintro j rfl rfl
      refine ⟨hr.holder j rfl, fun hc => ?_⟩
      rcases hr.closed _ hc with hs | ⟨i, hi, hs⟩
      · simp at hs
      · simp only [SocketId.connection.injEq] at hs
        simp only [Floor.past] at hi
        omega
    cases hg with
    | cons mv _ =>
      cases mv with
      | arrival j v => simp [Event.socket?] at he
      | departure j => exact hopen j rfl (by simpa [Event.socket?] using he)
      | idle hi => simpa using Floor.socket?_of_concerns hi he
      | @busy j _ hi hc =>
        exact hopen j rfl (by simpa using (Floor.socket?_of_concerns hi he).symm)
  · rintro before s c v after rfl
    obtain ⟨g, hb, hg⟩ := h.split
    have hr := Floor.record hb
    cases hg with
    | cons mv _ =>
      cases mv with
      | idle hi => simp [Event.concerns, Event.isAccept] at hi
      | busy hi => simp [Event.concerns, Event.isAccept] at hi
      | arrival j v =>
        refine ⟨rfl, fun s' c' v' ha => ?_⟩
        rcases hr.accepted s' c' v' ha with hc | ⟨i, hi, -⟩
        · exact hc
        · simp at hi

end Trace

end Network

namespace Stream.Listener

open Trace (onlyOn_append onlyOn_speak onlyOn_console)
open Floor (Follows)

theorem follows_arrival (s : Listener) (c : Connection) :
    Follows s.endpoint.id (.free s.connections.length) (s.arrival c)
      (.taken s.connections.length) := by
  refine .cons (.arrival _ c.sender) (.single (.busy ?_ rfl))
  simp [Event.concerns, Event.socket?, Event.isAccept, nextId]

/-- A session gives the floor back at its end. -/
theorem follows_serve (s : Listener) (c : Connection) (shown : String) :
    Follows s.endpoint.id (.taken s.connections.length)
      (((s.adopted c).serve (s.fresh c) shown).after
        (console ("Connection from " ++ shown))).trace (.free (s.connections.length + 1)) := by
  have hs := (Session.frame_run ⟨(s.adopted c).token, s.fresh c, (s.adopted c).context⟩).trace
  have hv := onlyOn_verdict s.nextId ((s.adopted c).session (s.fresh c)).result shown
  have hc := onlyOn_append.2 ⟨onlyOn_console ("Connection from " ++ shown), hs⟩
  have ht := onlyOn_append.2 ⟨hc, hv⟩
  have hl := (Floor.follows_taken ht s.endpoint.id).trans
    (.single (.departure s.connections.length))
  rw [serve_eq]
  simpa [Ran.after, session, fresh, nextId] using hl

theorem follows_round {s : Listener} {ran : Ran Listener Bool} (h : Round s ran) :
    ∃ f, Follows s.endpoint.id (.free s.connections.length) ran.trace f ∧
      (ran.result = .ok true → f = .free ran.state.connections.length) := by
  have ha := s.accepting
  generalize he : s.accept = accepted at ha
  cases ha with
  | @without trace last result q hw =>
    have hq := fun u (hu : Trace.OnlyOn s.endpoint.id u) =>
      Floor.follows_onlyOn (onlyOn_append.2 ⟨q.trace, hu⟩) s.connections.length
    cases h with
    | stopped hr =>
      simp only [he, q.connections]
      exact ⟨_, Floor.follows_onlyOn q.trace _, fun _ => rfl⟩
    | failed hr =>
      simp only [he]
      exact ⟨_, hq _ (onlyOn_speak _ _ _), by simp⟩
    | faulted hr hf =>
      simp only [he]
      exact ⟨_, Floor.follows_onlyOn q.trace _, by simp⟩
    | unshown hr hp => rw [he] at hr; exact absurd hr (hw _)
    | served hr hp => rw [he] at hr; exact absurd hr (hw _)
  | @connected trace last item c q hi hd =>
    have hq := (Floor.follows_onlyOn q.trace s.connections.length).trans
      (by simpa [q.id, q.connections] using last.follows_arrival c)
    cases h with
    | stopped hr =>
      rw [he] at hr
      exact absurd hr (last.handover_ne_none c)
    | failed hr =>
      simp only [he]
      exact ⟨_, hq.trans (Floor.follows_taken (onlyOn_speak _ _ _) _), by simp⟩
    | faulted hr hf =>
      simp only [he]
      exact ⟨_, hq, by simp⟩
    | unshown hr hp =>
      simp only [he]
      exact ⟨_, hq, by simp⟩
    | @served conn peer shown hr hp =>
      rw [he] at hr
      obtain ⟨rfl, -⟩ := kept_of_handover_ok hr
      have hs := last.follows_serve c shown
      rw [q.id, q.connections] at hs
      simp only [he, Ran.trace_after, Ran.state_after]
      refine ⟨_, hq.trans hs, fun _ => ?_⟩
      rw [serve_eq, length_served, length_adopted, q.connections]

theorem follows_service (s : Listener) :
    ∃ f, Follows s.endpoint.id (.free s.connections.length) s.service.trace f := by
  refine service_induction (fun s ran =>
    ∃ f, Follows s.endpoint.id (.free s.connections.length) ran.trace f) ?_ ?_ ?_ s
  · intro s h
    exact ⟨_, .nil _⟩
  · intro s h hr
    obtain ⟨f, hf, -⟩ := follows_round s.rounding
    exact ⟨f, hf⟩
  · intro s ran h hr ih
    obtain ⟨f, hf, hfree⟩ := follows_round s.rounding
    obtain ⟨g, hg⟩ := ih
    rw [(lasting_round s.rounding).id] at hg
    rw [hfree hr] at hf
    exact ⟨g, hf.trans hg⟩

end Stream.Listener

namespace Network

theorem concerns_attempts (config : Config) (id : SocketId) (optional : Bool) (o : Obstacles) :
    ∀ a ∈ attempts config id optional o, a.shows.Concerns id := by
  have hone : ∀ e : Event, e.socket? = some id → e.isAccept = false → Trace.Concerns id [e] :=
    fun e hs ha => Trace.concerns_singleton.2 (by simp [Event.concerns, hs, ha])
  intro a ha
  unfold attempts at ha
  simp only [List.mem_append, List.mem_cons, List.not_mem_nil, or_false] at ha
  rcases ha with ha | rfl | rfl | rfl
  · split at ha
    · simp only [List.mem_singleton] at ha
      subst ha
      exact hone _ rfl rfl
    · simp at ha
  · exact Trace.concerns_append.2 ⟨Trace.concerns_speak _ _ _, hone _ rfl rfl⟩
  · exact hone _ rfl rfl
  · exact hone _ rfl rfl

theorem concerns_setUp (config : Config) (type : Int) (id : SocketId) (optional : Bool)
    (o : Obstacles) : (setUp config type id optional o).1.Concerns id := by
  have ht : (tryAll (attempts config id optional o)).1.Concerns id :=
    forall_tryAll (concerns_attempts config id optional o)
  have hone : ∀ e : Event, e.socket? = some id → e.isAccept = false → Trace.Concerns id [e] :=
    fun e hs ha => Trace.concerns_singleton.2 (by simp [Event.concerns, hs, ha])
  have hm := making config type id optional o
  generalize setUp config type id optional o = result at hm ⊢
  cases hm with
  | unmade h => exact hone _ rfl rfl
  | failed h hf =>
    exact Trace.concerns_append.2 ⟨Trace.concerns_append.2 ⟨hone _ rfl rfl, ht⟩, hone _ rfl rfl⟩
  | made h hf => exact Trace.concerns_append.2 ⟨hone _ rfl rfl, ht⟩

end Network

namespace Server

open Trace (concerns_append concerns_singleton concerns_speak)
open Floor (Follows)

theorem concerns_preface (s : Server) (around : Surroundings) (socket : ServerSocket)
    (c : Context) : (s.preface around socket c).Concerns s.socketId := by
  have hprepared : (s.prepared socket c).1.Concerns s.socketId := by
    have hs : (Messaging.subscription s.socketId socket.obstacles.events?).Concerns s.socketId := by
      simp [Messaging.subscription, Trace.Concerns, Event.concerns, Event.socket?, Event.isAccept]
    unfold prepared prepare
    split
    · simp [Trace.Concerns]
    · unfold Messaging.subscribe
      split
      · simp only
        split
        · exact hs
        · exact concerns_append.2 ⟨hs, concerns_speak _ _ _⟩
      · simp [Trace.Concerns]
  have hannounce : (announce s.config.mode around socket).1.Concerns s.socketId := by
    unfold announce
    repeat' split
    all_goals simp [Trace.Concerns, Event.concerns, Event.socket?, Event.isAccept]
  simp only [preface, opening, concerns_append]
  exact ⟨⟨⟨⟨⟨concerns_speak _ _ _, concerns_speak _ _ _⟩, concerns_setUp _ _ _ _ _⟩, hprepared⟩,
    concerns_speak _ _ _⟩, hannounce⟩

theorem follows_mainLoop (s : Server) (socket : ServerSocket) (c : Context) :
    ∃ f, Follows s.socketId (.free s.connections.length) (s.mainLoop socket c).trace f := by
  unfold mainLoop serve
  split
  · exact ((s.up socket c).listener s.socketId socket (s.prepared socket c).2).follows_service
  · have hf := ((s.up socket c).mailbox s.socketId socket (s.prepared socket c).2).frame_service
    exact ⟨_, Floor.follows_onlyOn hf.trace _⟩

theorem concerns_signals (id : SocketId) (ns : List Int) :
    Trace.Concerns id (ns.flatMap signalReport) := by
  have hone (n : Int) : Trace.Concerns id (signalReport n) := by
    unfold signalReport
    refine concerns_append.2 ⟨concerns_speak _ _ _, ?_⟩
    split
    · exact concerns_speak _ _ _
    · simp [Trace.Concerns]
  intro e he
  obtain ⟨n, -, hn⟩ := List.mem_flatMap.1 he
  exact hone n e hn

/-- Everything up to the end of the main loop happens in turn: one session ends before the next
connection is accepted. What comes after that, if the run gets so far, begins with a note and
concerns the socket of the server only. -/
theorem one_at_a_time (s : Server) (around : Surroundings) (socket : ServerSocket) :
    ∃ main last, (s.run around socket).trace = main ++ last ∧ main.Orderly s.socketId ∧
      last.Concerns s.socketId ∧
      (last = [] ∨ ∃ rest, last = Trace.speak .info .server "Shutting down server..." ++ rest) := by
  have halone : ∀ t : Trace, t.Concerns s.socketId →
      ∃ main last, t = main ++ last ∧ main.Orderly s.socketId ∧ last.Concerns s.socketId ∧
      (last = [] ∨ ∃ rest, last = Trace.speak .info .server "Shutting down server..." ++ rest) :=
    fun t ht => ⟨t, [], by simp, Trace.orderly_of_follows (Floor.follows_free ht 0),
      by simp [Trace.Concerns], .inl rfl⟩
  have hr := s.course around socket
  generalize s.run around socket = ran at hr ⊢
  cases hr with
  | unready hc => exact halone _ (concerns_speak _ _ _)
  | @unset c e hc hs =>
    have hn := (Context.fresh_of_ofConfig hc).trace_close
    refine halone _ ?_
    simp only [hn, List.append_nil, opening, concerns_append]
    exact ⟨⟨⟨concerns_speak _ _ _, concerns_speak _ _ _⟩, concerns_setUp _ _ _ _ _⟩,
      concerns_speak _ _ _⟩
  | @unannounced c f hc hs ha => exact halone _ (s.concerns_preface around socket c)
  | @served c hc hs ha =>
    obtain ⟨f, hf⟩ := s.follows_mainLoop socket c
    obtain ⟨d, hdown⟩ := s.shutDown_mainLoop socket c
    have hmain := (Floor.follows_free (s.concerns_preface around socket c) _).trans hf
    refine ⟨_, _, List.append_assoc _ _ _, Trace.orderly_of_follows hmain, ?_, .inr ?_⟩
    · simp only [hdown, concerns_append]
      refine ⟨⟨⟨concerns_speak _ _ _, concerns_signals _ _⟩, concerns_singleton.2 ?_⟩, ?_⟩
      · simp [Event.concerns, Event.socket?, Event.isAccept]
      · unfold farewell
        split
        · exact concerns_speak _ _ _
        · simp [Trace.Concerns]
    · simp only [hdown, List.append_assoc]
      exact ⟨_, rfl⟩

end Server

end SctpProbe
