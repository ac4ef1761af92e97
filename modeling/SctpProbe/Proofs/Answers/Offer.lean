import SctpProbe.Proofs.Answers.Account
set_option autoImplicit false

/-!
Which pieces a script holds for the message loop. `brought` reads off a script what the calls on a
socket bring until it fails, and `pieces` how a message is cut to the size of the buffer. Every read
takes the first of the pieces that are offered (`Mailbox.offered_of_message`).
-/

namespace SctpProbe

namespace Network

variable {α : Type}

/-- What the calls on a socket bring until it fails. -/
def brought (timeout : Value) : Bool → List (Item α) → List α
  | _, [] => []
  | shut, i :: rest =>
    match outcome timeout shut i with
    | .error _ => []
    | .ok (.failed _) => []
    | .ok .ready =>
      match i.delivery with
      | .ok p => p :: brought timeout (shut || decide (i.poll = .closed)) rest
      | .error e =>
        if e.isTransient then brought timeout (shut || decide (i.poll = .closed)) rest else []
    | .ok _ => brought timeout (shut || decide (i.poll = .closed)) rest

def Endpoint.brought (e : Endpoint α) (timeout : Value) : List α :=
  Network.brought timeout e.shut e.script

section

variable {timeout : Value} {t : Token} {e : Endpoint α}

theorem brought_of_idle (h : (wait timeout t e).found = .idle) :
    e.brought timeout = e.advanced.brought timeout := by
  rcases wait_cases timeout t e with ⟨f, hp, -, hf⟩ | ⟨o, hp, -, hf⟩
  · simp [hf] at h
  · rw [hf] at h
    cases hs : e.script with
    | nil => simp [Endpoint.brought, Endpoint.advanced, hs]
    | cons i rest =>
      simp only [Endpoint.prospect, hs] at hp
      simp only [Endpoint.brought, Endpoint.advanced, hs, brought, hp]
      cases o with
      | ready => simp [hs, Found.ofOutcome] at h
      | failed err => simp [Found.ofOutcome] at h
      | timedOut => rfl
      | interrupted => rfl

theorem brought_of_ready {i : Item α} (h : (wait timeout t e).found = .ready i) :
    e.brought timeout = match i.delivery with
      | .ok p => p :: e.advanced.brought timeout
      | .error err => if err.isTransient then e.advanced.brought timeout else [] := by
  obtain ⟨-, hs, hp⟩ := wait_of_ready h
  rw [Endpoint.prospect, hs] at hp
  rw [Endpoint.brought, Endpoint.brought, Endpoint.advanced, hs]
  simp only [brought, hp]

theorem brought_of_broken {err : SystemError} (h : (wait timeout t e).found = .broken err) :
    e.brought timeout = [] := by
  rcases wait_cases timeout t e with ⟨f, hp, -, hf⟩ | ⟨o, hp, -, hf⟩
  · simp [hf] at h
  · rw [hf] at h
    cases hs : e.script with
    | nil => simp [Endpoint.brought, hs, brought]
    | cons i rest =>
      rw [Found.ofOutcome_broken h, Endpoint.prospect, hs] at hp
      simp [Endpoint.brought, hs, brought, hp]

theorem brought_of_refused {f : Fault} (h : (wait timeout t e).found = .refused f) :
    e.brought timeout = [] := by
  rcases wait_cases timeout t e with ⟨g, hp, -, hf⟩ | ⟨o, hp, -, hf⟩
  · cases hs : e.script with
    | nil => simp [Endpoint.brought, hs, brought]
    | cons i rest =>
      rw [Endpoint.prospect, hs] at hp
      simp [Endpoint.brought, hs, brought, hp]
  · rw [hf] at h
    exact absurd h (Found.ofOutcome_ne_refused _ _ _)

/-- What is put in front of a script behind a call is brought by the next one. -/
theorem brought_delivering {i : Item α} (h : (wait timeout t e).found = .ready i) (p : α)
    (rest : List (Item α)) :
    brought timeout e.advanced.shut (.delivering p :: rest) =
      p :: brought timeout e.advanced.shut rest := by
  obtain ⟨-, hs, hp⟩ := wait_of_ready h
  rw [Endpoint.prospect, hs] at hp
  have hready := ready_again hp p
  have hshut : e.advanced.shut = (e.shut || decide (i.poll = .closed)) := by
    rw [Endpoint.advanced, hs]
  rw [← hshut] at hready
  simp only [brought, hready]
  simp [Item.delivering, Item.delivery]

end

end Network

namespace Messaging

open Network

def pieces (room : Nat) (m : Message) : List Piece :=
  if _h : room = 0 ∨ m.data.length ≤ room then [.ofMessage room m]
  else .ofMessage room m :: pieces room { m with data := m.data.drop room }
termination_by m.data.length
decreasing_by
  simp only [List.length_drop]
  omega

/-- The first piece is read, and the rest comes as a message of its own. -/
theorem pieces_eq {room : Nat} (h : 0 < room) (m : Message) :
    pieces room m = .ofMessage room m :: ((restOf room m).filterMap Item.payload?).flatMap
      (pieces room) := by
  rw [pieces]
  unfold restOf
  split
  · next hc =>
    have hd : m.data.drop room = [] := List.drop_eq_nil_iff.2 (by omega)
    simp [hd]
  · next hc =>
    cases hd : m.data.drop room with
    | nil => exact absurd (List.drop_eq_nil_iff.1 hd) (by omega)
    | cons b bs => simp [Item.delivering]

namespace Mailbox

/-- The pieces that are still to be read before the socket fails. -/
def offered (s : Mailbox) : List Piece :=
  (s.endpoint.brought s.context.config.pollTimeout.toValue).flatMap (pieces s.context.room)

/-- Nobody asks the loop to stop before its script is at the end. -/
structure Undisturbed (s : Mailbox) : Prop where
  awake : s.token.cancelled = false ∨ s.endpoint.script = []
  quiet : ∀ i ∈ s.endpoint.script, i.quiet = true

section

variable {s : Mailbox} {item : Item Message} {m : Message}

theorem awake_strike (h : s.Undisturbed) (hs : s.endpoint.script = item :: s.endpoint.script.tail) :
    item.quiet = true ∧ s.polled.token.cancelled = false := by
  have hq := h.quiet item (hs ▸ List.mem_cons_self)
  have hawake : s.token.cancelled = false := by
    rcases h.awake with ha | ha
    · exact ha
    · simp [ha] at hs
  refine ⟨hq, ?_⟩
  rw [polled, poll, token_wait, Endpoint.beginning, hs]
  simp [Token.strike_quiet hq, hawake]

theorem undisturbed_again {next : Mailbox} {trace : Trace} (h : s.Undisturbed)
    (ht : s.turn = .again trace next) : next.Undisturbed := by
  refine ⟨?_, items_again (fun _ _ _ _ _ _ => rfl) ht h.quiet⟩
  cases step_again ht with
  | idle hc hf =>
    cases hs : s.endpoint.script with
    | nil => exact .inr (by simp [hs])
    | cons i rest => exact .inl (awake_strike h (by rw [hs, List.tail_cons])).2
  | @again item rest next hc hf hr =>
    obtain ⟨hq, ha⟩ := awake_strike h (wait_of_ready hf).2.1
    have hcalled : s.called item = s.polled := by simp [called, Token.strike_quiet hq, polled]
    rw [hcalled] at hr
    cases hr with
    | retried => exact .inl ha
    | notified => exact .inl ha
    | closed => exact .inl ha
    | handled =>
      rw [token_handle hq]
      exact .inl ha

theorem offered_of_idle (hf : s.poll.found = .idle) : s.offered = s.polled.offered := by
  rw [offered, brought_of_idle hf, offered, polled, poll, endpoint_wait]

theorem offered_of_ready (hf : s.poll.found = .ready item) :
    s.offered = match item.delivery with
      | .ok m => pieces s.context.room m ++ s.polled.offered
      | .error e => if e.isTransient then s.polled.offered else [] := by
  rw [offered, brought_of_ready hf, offered, polled, poll, endpoint_wait]
  cases item.delivery with
  | ok m => simp
  | error e => cases ht : e.isTransient <;> simp [ht]

theorem brought_restOf (hf : s.poll.found = .ready item) (m : Message)
    (rest : List (Item Message)) :
    brought s.context.config.pollTimeout.toValue s.poll.endpoint.shut
      (restOf s.context.room m ++ rest) = (restOf s.context.room m).filterMap Item.payload? ++
        brought s.context.config.pollTimeout.toValue s.poll.endpoint.shut rest := by
  rw [poll, endpoint_wait]
  unfold restOf
  split
  · rfl
  · rw [List.singleton_append, brought_delivering hf]
    rfl

theorem offered_taken (hf : s.poll.found = .ready item) (m : Message) :
    ((s.called item).taken m).offered =
      ((restOf s.context.room m).filterMap Item.payload?).flatMap (pieces s.context.room) ++
        s.polled.offered := by
  have hroom : ((s.called item).taken m).context.room = s.context.room :=
    ((s.called item).kept_taken m).room
  have hbrought : ((s.called item).taken m).endpoint.brought
      ((s.called item).taken m).context.config.pollTimeout.toValue = _ :=
    brought_restOf hf m s.poll.endpoint.script
  rw [offered, hroom, hbrought, List.flatMap_append]
  rfl

/-- A read takes the first of the pieces that are offered. -/
theorem offered_of_message (hroom : 0 < s.context.room) (hf : s.poll.found = .ready item)
    (hd : item.delivery = .ok m) :
    s.offered = (s.called item).piece m :: ((s.called item).taken m).offered := by
  rw [offered_of_ready hf, hd, offered_taken hf]
  simp only [pieces_eq hroom, List.cons_append]
  rfl

theorem offered_handle (s : Mailbox) (item : Item Message) (p : Piece) :
    (s.handle item p).state.offered = s.offered := by
  have hk := (s.frame_handle item p).context
  have hb : ∀ timeout, (s.handle item p).state.endpoint.brought timeout =
      s.endpoint.brought timeout := by
    intro timeout
    have hh := s.handling item p
    generalize s.handle item p = ran at hh ⊢
    cases hh with
    | unshown h => rfl
    | reported h he => rfl
    | echoed h he =>
      cases hs : p.sender.truthy with
      | false => simp [echo, hs]
      | true =>
        rw [Ran.state_after, s.echo_eq item hs p.reply_carried]
        rfl
  rw [offered, hk.room, hk.config, hb, offered]

end

end Mailbox

end Messaging

end SctpProbe
