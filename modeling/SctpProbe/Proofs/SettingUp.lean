import SctpProbe.Proofs.Release
set_option autoImplicit false

namespace SctpProbe.Network

inductive Call
  | socket
  | setsockopt
  | bind
  | listen
  | setblocking
  deriving DecidableEq, Repr

namespace Call

def name : Call → String
  | .socket => "socket"
  | .setsockopt => "setsockopt"
  | .bind => "bind"
  | .listen => "listen"
  | .setblocking => "setblocking"

def step : Call → Step
  | .socket => .socket
  | .setsockopt => .setsockopt
  | .bind => .bind
  | .listen => .listen
  | .setblocking => .listen

def failure? (o : Obstacles) : Call → Option SystemError
  | .socket => o.socket?
  | .setsockopt => o.setsockopt?
  | .bind => o.bind?
  | .listen => o.listen?
  | .setblocking => o.unblock?

def shows (config : Config) (type : Int) (id : SocketId) (o : Obstacles) : Call → Trace
  | .socket => [.opened id inet6 type sctp o.socket?]
  | .setsockopt => [.optionSet id ipv6Level singleStack (.int 0) o.setsockopt?]
  | .bind => Trace.speak .debug .sockets ("Binding to port " ++ portText config.port) ++
      [.bound id (.tuple [config.host, config.port.toValue]) o.bind?]
  | .listen => [.listening id config.backlog o.listen?]
  | .setblocking => [.unblocked id o.unblock?]

def later (optional : Bool) : List Call :=
  (if optional then [.setsockopt] else []) ++ [.bind, .listen, .setblocking]

def order (optional : Bool) : List Call := .socket :: later optional

theorem step_name_eq_iff (c : Call) : c.step.name = c.name ↔ c ≠ .setblocking := by
  cases c <;> decide

theorem step_eq_socket_iff (c : Call) : c.step = .socket ↔ c = .socket := by
  cases c <;> decide

end Call

section

variable (config : Config) (type : Int) (id : SocketId) (optional : Bool) (o : Obstacles)

def Call.attempt (c : Call) : Attempt := ⟨c.step, c.shows config type id o, c.failure? o⟩

theorem attempts_eq :
    attempts config id optional o = (Call.later optional).map (Call.attempt config type id o) := by
  cases optional <;> rfl

inductive Tried (cs : List Call) : Trace × Option SetupError → Prop
  | through (h : ∀ c ∈ cs, c.failure? o = none) :
    Tried cs (cs.flatMap (Call.shows config type id o), none)
  | broken {before after : List Call} {c : Call} {e : SystemError}
    (horder : cs = before ++ c :: after) (hbefore : ∀ b ∈ before, b.failure? o = none)
    (hc : c.failure? o = some e) :
    Tried cs ((before ++ [c]).flatMap (Call.shows config type id o), some ⟨c.step, e⟩)

theorem tried (cs : List Call) :
    Tried config type id o cs (tryAll (cs.map (Call.attempt config type id o))) := by
  induction cs with
  | nil => exact .through (by simp)
  | cons c rest ih =>
    rw [List.map_cons, tryAll]
    cases hc : c.failure? o with
    | some e =>
      have horder : c :: rest = [] ++ c :: rest := rfl
      have h : Tried config type id o _ _ := .broken horder (by simp) hc
      simpa [Call.attempt, hc] using h
    | none =>
      simp only [Call.attempt, hc]
      generalize tryAll _ = result at ih ⊢
      cases ih with
      | through h => exact .through (List.forall_mem_cons.2 ⟨hc, h⟩)
      | @broken before after d e horder hbefore hd =>
        have horder : c :: rest = (c :: before) ++ d :: after := congrArg (c :: ·) horder
        exact .broken horder (List.forall_mem_cons.2 ⟨hc, hbefore⟩) hd

/-- What a setup comes to. A socket that was made is closed if a later call fails. -/
inductive Course : Trace × Except SetupError Unit → Prop
  | through (h : ∀ c ∈ Call.order optional, c.failure? o = none) :
    Course ((Call.order optional).flatMap (Call.shows config type id o), .ok ())
  | broken {before after : List Call} {c : Call} {e : SystemError}
    (horder : Call.order optional = before ++ c :: after)
    (hbefore : ∀ b ∈ before, b.failure? o = none) (hc : c.failure? o = some e) :
    Course ((before ++ [c]).flatMap (Call.shows config type id o) ++
      (if c = .socket then [] else [.closed id]), .error ⟨c.step, e⟩)

theorem Call.socket_not_mem_later : .socket ∉ Call.later optional := by
  cases optional <;> decide

theorem course_setUp : Course config type id optional o (setUp config type id optional o) := by
  cases hs : o.socket? with
  | some e =>
    -- Nothing has been made yet that could be closed.
    have horder : Call.order optional = [] ++ .socket :: Call.later optional := rfl
    have h : Course config type id optional o _ := .broken horder (by simp) hs
    simpa [setUp, hs, Call.shows, Call.step] using h
  | none =>
    have ht := tried config type id o (Call.later optional)
    rw [← attempts_eq config type id optional o] at ht
    simp only [setUp, hs]
    generalize tryAll (attempts config id optional o) = result at ht ⊢
    cases ht with
    | through h =>
      have hall : ∀ c ∈ Call.order optional, c.failure? o = none := List.forall_mem_cons.2 ⟨hs, h⟩
      have h : Course config type id optional o _ := .through hall
      simpa [Call.order, Call.shows, hs] using h
    | @broken before after c e horder hbefore hc =>
      have hsocket : c ≠ .socket := by
        rintro rfl
        exact Call.socket_not_mem_later optional (horder ▸ by simp)
      have horder : Call.order optional = (.socket :: before) ++ c :: after :=
        congrArg (Call.socket :: ·) horder
      have h : Course config type id optional o _ :=
        .broken horder (List.forall_mem_cons.2 ⟨hs, hbefore⟩) hc
      simpa [Call.shows, hs, hsocket] using h

theorem closings_shows (cs : List Call) (q : SocketId) :
    Trace.closings q (cs.flatMap (Call.shows config type id o)) = 0 := by
  induction cs with
  | nil => rfl
  | cons c rest ih =>
    have hc : Trace.closings q (c.shows config type id o) = 0 := by cases c <;> rfl
    rw [List.flatMap_cons, Trace.closings_append, hc, ih]

/-- A setup goes through its calls in order up to the first one that fails, and closes what it has
made if one does. -/
theorem setup_accounted : Course config type id optional o (setUp config type id optional o) ∧
    (∀ q, (setUp config type id optional o).1.closings q =
      match (setUp config type id optional o).2 with
      | .ok () => 0
      | .error e => if q = id ∧ e.step ≠ .socket then 1 else 0) ∧
    ∀ c : Call, c.step.name = c.name ↔ c ≠ .setblocking := by
  have hcourse := course_setUp config type id optional o
  refine ⟨hcourse, fun q => ?_, Call.step_name_eq_iff⟩
  generalize setUp config type id optional o = result at hcourse ⊢
  cases hcourse with
  | through => exact closings_shows config type id o _ q
  | @broken before after c e =>
    simp only [Trace.closings_append, closings_shows, Nat.zero_add, ne_eq,
      Call.step_eq_socket_iff]
    by_cases hc : c = .socket
    · simp [hc]
    · simp [hc, Trace.closings_closed]

end

def Obstacles.stuck (e : SystemError) : Obstacles := { Obstacles.none with unblock? := some e }

/-- A failure in making the socket non-blocking is not told by that name. -/
theorem listening_blamed : ¬ ∀ (config : Config) (type : Int) (id : SocketId) (optional : Bool)
    (o : Obstacles) (before after : List Call) (c : Call) (e : SystemError),
    Call.order optional = before ++ c :: after → (∀ b ∈ before, b.failure? o = none) →
    c.failure? o = some e →
    ∃ s, (setUp config type id optional o).2 = .error ⟨s, e⟩ ∧ s.name = c.name := by
  intro h
  obtain ⟨s, hs, hname⟩ := h .usual 1 (.server 0) true
    (.stuck (.numbered (some 5) (some "Input/output error")))
    [.socket, .setsockopt, .bind, .listen] [] .setblocking _ rfl (by decide) rfl
  obtain rfl : Step.listen = s := congrArg SetupError.step (Except.error.inj hs)
  exact absurd hname (by decide)

end SctpProbe.Network
