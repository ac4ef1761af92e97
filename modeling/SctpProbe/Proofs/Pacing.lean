import SctpProbe.Proofs.Containment
import SctpProbe.Proofs.Isolation
set_option autoImplicit false

/-!
How often the loops wait. Every turn of a loop begins with one wait for its socket (`OneWait`), and
every wait uses up what is left of the script, to which a read may only give back the rest of its
own payload. So a loop takes as many turns as there are items and rests of payloads, and one more at
the end of the script (`Paced`).
-/

namespace SctpProbe

open Network

namespace Network

variable {α : Type}

def Event.isWait (q : SocketId) : Event → Bool
  | .waited s _ _ => s == q
  | _ => false

namespace Trace

variable {t u : Trace} {id q : SocketId}

def waits (q : SocketId) (t : Trace) : Nat := t.countP (Event.isWait q)

@[simp] theorem waits_nil (q : SocketId) : waits q [] = 0 := rfl

@[simp] theorem waits_append (q : SocketId) (t u : Trace) :
    waits q (t ++ u) = waits q t + waits q u := List.countP_append ..

theorem waits_eq_zero (h : ∀ e ∈ t, e.isWait q = false) : t.waits q = 0 :=
  List.countP_eq_zero.2 fun e he => by simp [h e he]

theorem waits_of_calm (h : t.Calm) (q : SocketId) : t.waits q = 0 := by
  refine waits_eq_zero fun e he => ?_
  have h0 := h e he
  cases e <;> first | rfl | simp [Event.role, Role.calm] at h0

@[simp] theorem waits_speak (level : Log.Level) (speaker : Log.Speaker) (message : String)
    (q : SocketId) : (speak level speaker message).waits q = 0 :=
  waits_of_calm (calm_speak _ _ _) q

@[simp] theorem waits_console (text : String) (q : SocketId) : (console text).waits q = 0 :=
  waits_of_calm (still_console text).calm q

theorem waits_of_onlyOn (h : t.OnlyOn id) (hq : q ≠ id) : t.waits q = 0 := by
  refine waits_eq_zero fun e he => ?_
  have h0 := h e he
  cases e with
  | waited s _ _ =>
    have hs : s = id := by simpa [Event.onlyOn] using h0
    simp [Event.isWait, hs, hq.symm]
  | _ => rfl

end Trace

/-- A trace that begins with a wait for a socket and shows no other one. A wait whose timeout is of
no use is begun as well, but reports nothing. -/
structure OneWait (w : Waited α) (id : SocketId) (t : Trace) : Prop where
  first : w.trace <+: t
  once : t.waits id = 1 ∨ t.waits id = 0 ∧ ∃ f, w.found = .refused f
  others : ∀ q, q ≠ id → t.waits q = 0

theorem oneWait {timeout : Value} {token : Token} {e : Endpoint α} {rest : Trace}
    (h : ∀ q, rest.waits q = 0) :
    OneWait (wait timeout token e) e.id ((wait timeout token e).trace ++ rest) := by
  have hbegin (q : SocketId) : (e.beginning token).1.waits q = 0 :=
    Trace.waits_of_calm (Trace.calm_stops (e.isStop_beginning token)) q
  refine ⟨List.prefix_append _ _, ?_, fun q hq => ?_⟩
  · rcases wait_cases timeout token e with ⟨f, -, ht, hf⟩ | ⟨o, -, ht, -⟩
    · exact .inr ⟨by rw [ht, Trace.waits_append, hbegin, h], f, hf⟩
    · refine .inl ?_
      rw [ht, Trace.waits_append, Trace.waits_append, hbegin, h]
      simp [Trace.waits, Event.isWait]
  · rw [Trace.waits_append, h, Trace.waits_of_onlyOn (onlyOn_wait timeout token e) hq]

theorem oneWait_alone (timeout : Value) (token : Token) (e : Endpoint α) :
    OneWait (wait timeout token e) e.id (wait timeout token e).trace := by
  have h : OneWait (wait timeout token e) e.id ((wait timeout token e).trace ++ []) :=
    oneWait Trace.waits_nil
  simpa using h

theorem Token.waits_strike (t : Token) (i : Item α) (m : Moment) (q : SocketId) :
    Trace.waits q (t.strike i m).1 = 0 :=
  Trace.waits_of_calm (Trace.calm_stops (t.isStop_strike i m)) q

theorem oneWait_call {timeout : Value} {token : Token} {e : Endpoint α} {i : Item α} {rest : Trace}
    (h : ∀ q, rest.waits q = 0) :
    OneWait (wait timeout token e) e.id ((wait timeout token e).trace ++
      ((wait timeout token e).token.strike i .call).1 ++ rest) := by
  rw [List.append_assoc]
  refine oneWait fun q => ?_
  rw [Trace.waits_append, Token.waits_strike, h]

theorem remaining_call (size : α → Nat) {timeout : Value} {t : Token} {e : Endpoint α} {i : Item α}
    (h : (wait timeout t e).found = .ready i) :
    remaining size ((wait timeout t e).token.strike i .call).2 (wait timeout t e).endpoint +
      i.load size ≤ remaining size t e := by
  have hw := remaining_wait_ready size timeout t e i h
  have hs := (wait timeout t e).token.weight_strike_le i .call
  simp only [remaining] at *
  omega

theorem Item.load_pos (size : α → Nat) (i : Item α) : 0 < i.load size := by
  unfold load
  omega

/-- How many reads are needed for the rest of a payload after the first one. -/
def rests (room length : Nat) : Nat := (length + room - 1) / room - 1

theorem rests_of_lt {room length : Nat} (h : 0 < room) (hl : room < length) :
    rests room length = rests room (length - room) + 1 := by
  have hsum : length + room - 1 = length - room + room - 1 + room := by omega
  have hpos : 0 < (length - room + room - 1) / room := Nat.div_pos (by omega) h
  rw [rests, rests, hsum, Nat.add_div_right _ h]
  omega

theorem rests_drop {room : Nat} (h : 0 < room) {bytes : List UInt8} (hd : bytes.drop room ≠ []) :
    rests room (bytes.drop room).length + 1 = rests room bytes.length := by
  have hl : room < bytes.length := by simpa [List.drop_eq_nil_iff] using hd
  rw [List.length_drop, rests_of_lt h hl]

end Network

/-- What holds of what a turn shows and where it leads, whether it ends its loop or not. -/
def Turn.Leads {σ α : Type} (P : Trace → σ → Prop) : Turn σ α → Prop
  | .again t next => P t next
  | .done ran => P ran.trace ran.state

/-- A loop that is over after a number of turns, each of which begins as told. To see that it is
over, and to do nothing then, is not a turn. -/
inductive Paced {σ α : Type} (turn : σ → Turn σ α) (stops : σ → Bool) (begins : σ → Trace → Prop) :
    σ → Nat → Ran σ α → Prop
  | stopped {s : σ} {ran : Ran σ α} (h : turn s = .done ran) (ho : stops s = true)
    (ht : ran.trace = []) : Paced turn stops begins s 0 ran
  | last {s : σ} {ran : Ran σ α} (h : turn s = .done ran) (ho : stops s = false)
    (hb : begins s ran.trace) : Paced turn stops begins s 1 ran
  | again {s next : σ} {t : Trace} {n : Nat} {ran : Ran σ α} (h : turn s = .again t next)
    (ho : stops s = false) (hb : begins s t) (hr : Paced turn stops begins next n ran) :
    Paced turn stops begins s (n + 1) (ran.after t)

section

variable {σ α : Type} {turn : σ → Turn σ α} {weight : σ → Nat} {shrinks : Shrinks turn weight}
  {stops : σ → Bool} {begins : σ → Trace → Prop}

/-- A loop whose every turn uses something up takes no more turns than there is to be used up. -/
theorem paced_loop (holds : σ → Prop) (left : σ → Nat) (rest : α)
    (ended : ∀ s, stops s = true → turn s = .done ⟨[], s, .ok rest⟩)
    (turns : ∀ s, holds s → stops s = false →
      (turn s).Leads fun t next => begins s t ∧ left next < left s)
    (kept : ∀ s t next, holds s → turn s = .again t next → holds next) (s : σ) :
    holds s → ∃ n, n + left (loop turn weight shrinks s).state ≤ left s ∧
      Paced turn stops begins s n (loop turn weight shrinks s) := by
  refine loop_induction (fun s ran => holds s → ∃ n, n + left ran.state ≤ left s ∧
    Paced turn stops begins s n ran) ?_ ?_ s
  · intro s ran h hs
    cases ho : stops s with
    | true =>
      obtain rfl : ran = _ := Turn.done.inj (h.symm.trans (ended s ho))
      exact ⟨0, by simp, .stopped h ho rfl⟩
    | false =>
      have hturn := turns s hs ho
      rw [h] at hturn
      -- the last turn uses something up as well, so that the bound leaves room for it
      obtain ⟨hb, hl⟩ := hturn
      exact ⟨1, by omega, .last h ho hb⟩
  · intro s t next ran h ih hs
    cases ho : stops s with
    | true => cases h.symm.trans (ended s ho)
    | false =>
      have hturn := turns s hs ho
      rw [h] at hturn
      obtain ⟨hb, hl⟩ := hturn
      obtain ⟨n, hn, hp⟩ := ih (kept s t next hs h)
      exact ⟨n + 1, by rw [Ran.state_after]; omega, .again h ho hb hp⟩

/-- A loop that waits once in a turn waits as often as it turns, at most. -/
theorem Paced.waits_le {β : Type} {poll : σ → Waited β} {id : σ → SocketId}
    (hid : ∀ s t next, turn s = .again t next → id next = id s) {s : σ} {n : Nat} {ran : Ran σ α}
    (h : Paced turn stops (fun s t => OneWait (poll s) (id s) t) s n ran) :
    ran.trace.waits (id s) ≤ n := by
  have hone {s : σ} {t : Trace} (hb : OneWait (poll s) (id s) t) : t.waits (id s) ≤ 1 := by
    rcases hb.once with h | ⟨h, -⟩ <;> omega
  induction h with
  | stopped _ _ ht => simp [ht]
  | last _ _ hb => exact hone hb
  | again h _ hb _ ih =>
    rw [hid _ _ _ h] at ih
    have := hone hb
    rw [Ran.trace_after, Trace.waits_append]
    omega

end

namespace Stream.Session

variable {s : Session} {item : Item (List UInt8)} {received : Turn Session Bool} {room : Nat}

/-- What there is for a session to wait for: the items of its script, the rests of their payloads,
and the end of the script. -/
def left (room : Nat) (s : Session) : Nat :=
  Network.remaining (fun bytes => rests room bytes.length) s.token s.endpoint

theorem loads_deferred (h : 0 < room) (bytes : List UInt8) :
    Item.loads (fun bytes => rests room bytes.length) (deferred room bytes) ≤
      rests room bytes.length := by
  unfold deferred
  split
  · exact Nat.zero_le _
  · next hd =>
    have := rests_drop h hd
    simp only [Item.loads, Item.load, Item.delivering]
    omega

theorem left_polled (h : s.token.cancelled = false) : s.polled.left room < s.left room :=
  remaining_wait_lt _ _ s.token s.endpoint h

theorem left_called (room : Nat) (hf : s.poll.found = .ready item) :
    (s.called item).left room + item.load (fun bytes => rests room bytes.length) ≤
      s.left room :=
  remaining_call _ hf

theorem left_taken (h : 0 < s.context.room) {bytes : List UInt8} (hd : item.delivery = .ok bytes) :
    (s.taken bytes).left s.context.room <
      s.left s.context.room + item.load (fun bytes => rests s.context.room bytes.length) := by
  have hl := loads_deferred h bytes
  simp only [left, taken, Network.remaining, Endpoint.load, Item.loads_append, Item.load,
    Item.payload_of_delivery hd]
  omega

theorem left_replied (s : Session) (item : Item (List UInt8)) (bytes : List UInt8) :
    (s.replied item bytes).left room ≤ (s.taken bytes).left room := by
  have hw := weight_echo_le s.context.config.sendTimeout s.endpoint.id item s.endpoint.sends
    s.token (s.chunk bytes)
  simp only [left, replied, reply, taken, Network.remaining, Endpoint.load] at *
  omega

theorem waits_report (s : Session) (bytes : List UInt8) (q : SocketId) :
    (s.report bytes).waits q = 0 := by
  rw [report, Trace.waits_append, Trace.waits_append, Trace.waits_speak, Trace.waits_console]
  rfl

theorem waits_answered (s : Session) (item : Item (List UInt8)) (bytes : List UInt8)
    (q : SocketId) : (s.report bytes ++ (s.reply item bytes).trace).waits q = 0 := by
  rw [Trace.waits_append, waits_report, reply, Trace.waits_of_calm (calm_echo _ _ _ _ _ _)]

theorem leads_receipt (hroom : 0 < s.context.room) (h : Receipt s item received) :
    received.Leads fun t next => (∀ q, t.waits q = 0) ∧ next.left s.context.room <
      s.left s.context.room + item.load (fun bytes => rests s.context.room bytes.length) := by
  have hitem := item.load_pos fun bytes => rests s.context.room bytes.length
  cases h with
  | retried => exact ⟨fun _ => rfl, Nat.lt_add_of_pos_right hitem⟩
  | failed =>
    refine ⟨fun q => ?_, Nat.lt_add_of_pos_right hitem⟩
    rw [Trace.waits_append, Trace.waits_speak]
    rfl
  | closed hd =>
    refine ⟨fun q => ?_, left_taken hroom hd⟩
    rw [Trace.waits_append, Trace.waits_console]
    rfl
  | dumped hd => exact ⟨s.waits_report _, left_taken hroom hd⟩
  | @echoed bytes hd =>
    exact ⟨s.waits_answered item bytes,
      Nat.lt_of_le_of_lt (s.left_replied item bytes) (left_taken hroom hd)⟩
  | @aborted bytes f hd =>
    exact ⟨s.waits_answered item bytes,
      Nat.lt_of_le_of_lt (s.left_replied item bytes) (left_taken hroom hd)⟩

theorem leads_turn (hroom : 0 < s.context.room) (hc : s.token.cancelled = false) :
    s.turn.Leads fun t next => OneWait s.poll s.endpoint.id t ∧
      next.left s.context.room < s.left s.context.room := by
  have hcall {item : Item (List UInt8)} {t : Trace} {next : Session}
      (hf : s.poll.found = .ready item)
      (h : (∀ q, t.waits q = 0) ∧ next.left s.context.room < (s.called item).left s.context.room +
        item.load (fun bytes => rests s.context.room bytes.length)) :
      OneWait s.poll s.endpoint.id (s.approach item ++ t) ∧
        next.left s.context.room < s.left s.context.room :=
    ⟨oneWait_call h.1, Nat.lt_of_lt_of_le h.2 (left_called s.context.room hf)⟩
  have hstep := s.step
  generalize s.turn = turn at hstep ⊢
  cases hstep with
  | stopped hs => simp [hc] at hs
  | broken => exact ⟨oneWait (Trace.waits_speak _ _ _), left_polled hc⟩
  | refused => exact ⟨oneWait_alone _ _ _, left_polled hc⟩
  | idle => exact ⟨oneWait_alone _ _ _, left_polled hc⟩
  | @again item _ _ _ hf hr => exact hcall hf (leads_receipt (s := s.called item) hroom hr)
  | @done item _ _ hf hr => exact hcall hf (leads_receipt (s := s.called item) hroom hr)

theorem paced_run (s : Session) (hroom : 0 < s.context.room) :
    ∃ n, n + s.run.state.left s.context.room ≤ s.left s.context.room ∧
      Paced turn (fun s => s.token.cancelled) (fun s t => OneWait s.poll s.endpoint.id t) s n
        s.run := by
  refine paced_loop (fun t => t.context.room = s.context.room) (left s.context.room) true
    (fun t ho => ?_) (fun t ht ho => ?_) (fun t trace next ht h => ?_) s rfl
  · rw [turn, if_pos ho]
  · exact ht ▸ leads_turn (ht ▸ hroom) ho
  · exact (frame_again h).context.room.trans ht

end Stream.Session

namespace Stream.Listener

variable {s : Listener}

theorem oneWait_call {item : Item Connection} {t : Trace} (h : ∀ q, t.waits q = 0) :
    OneWait s.poll s.endpoint.id (s.approach item ++ t) := by
  rw [approach, List.append_assoc, List.append_assoc]
  refine oneWait fun q => ?_
  rw [Trace.waits_append, Trace.waits_append, Trace.waits_speak, Token.waits_strike, h]

theorem leads_turn (hc : s.token.cancelled = false) :
    s.acceptTurn.Leads fun t next => OneWait s.poll s.endpoint.id t ∧
      next.remaining < s.remaining := by
  have hpolled : s.polled.remaining < s.remaining := remaining_wait_lt _ _ s.token s.endpoint hc
  have hcalled (item : Item Connection) : (s.called item).remaining < s.remaining :=
    Nat.lt_of_le_of_lt (Nat.add_le_add_left (s.poll.token.weight_strike_le item .call) _) hpolled
  have hstep := s.step
  generalize s.acceptTurn = turn at hstep ⊢
  cases hstep with
  | stopped hs => simp [hc] at hs
  | broken => exact ⟨oneWait_alone _ _ _, hpolled⟩
  | refused => exact ⟨oneWait_alone _ _ _, hpolled⟩
  | idle => exact ⟨oneWait_alone _ _ _, hpolled⟩
  | @again item _ _ _ _ ha =>
    cases ha with
    | retried => exact ⟨oneWait_call fun _ => rfl, hcalled item⟩
  | @done item _ _ _ ha =>
    cases ha with
    | failed => exact ⟨oneWait_call fun _ => rfl, hcalled item⟩
    | blocking => exact ⟨oneWait_call fun _ => rfl, hcalled item⟩
    | nameless => exact ⟨oneWait_call fun _ => rfl, hcalled item⟩
    | taken => exact ⟨oneWait_call fun _ => rfl, hcalled item⟩

theorem paced_accept (s : Listener) :
    ∃ n, n + s.accept.state.remaining ≤ s.remaining ∧
      Paced acceptTurn (fun s => s.token.cancelled) (fun s t => OneWait s.poll s.endpoint.id t) s n
        s.accept := by
  refine paced_loop (fun _ => True) remaining none (fun t ho => ?_) (fun _ _ ho => leads_turn ho)
    (fun _ _ _ _ _ => trivial) s trivial
  rw [acceptTurn, if_pos ho]

end Stream.Listener

namespace Messaging.Mailbox

variable {s : Mailbox} {item : Item Message} {received : Turn Mailbox Bool} {room : Nat}

def left (room : Nat) (s : Mailbox) : Nat :=
  Network.remaining (fun m => rests room m.data.length) s.token s.endpoint

theorem loads_restOf (h : 0 < room) (m : Message) :
    Item.loads (fun m => rests room m.data.length) (restOf room m) ≤ rests room m.data.length := by
  unfold restOf
  split
  · exact Nat.zero_le _
  · next hd =>
    have := rests_drop h hd
    simp only [Item.loads, Item.load, Item.delivering]
    omega

theorem left_polled (h : s.token.cancelled = false) : s.polled.left room < s.left room :=
  remaining_wait_lt _ _ s.token s.endpoint h

theorem left_called (room : Nat) (hf : s.poll.found = .ready item) :
    (s.called item).left room + item.load (fun m => rests room m.data.length) ≤ s.left room :=
  remaining_call _ hf

theorem left_taken (h : 0 < s.context.room) {m : Message} (hd : item.delivery = .ok m) :
    (s.taken m).left s.context.room <
      s.left s.context.room + item.load (fun m => rests s.context.room m.data.length) := by
  have hl := loads_restOf h m
  simp only [left, taken, Network.remaining, Endpoint.load, Item.loads_append, Item.load,
    Item.payload_of_delivery hd]
  omega

theorem left_handle (s : Mailbox) (item : Item Message) (p : Piece) :
    (s.handle item p).state.left room ≤ s.left room := by
  obtain ⟨hs, hw⟩ := s.handle_state item p
  simp only [left, Network.remaining, Endpoint.load, hs]
  omega

theorem waits_arrival (s : Mailbox) (m : Message) {t : Trace} (h : t.Calm) (q : SocketId) :
    (s.arrival m ++ t).waits q = 0 := by
  rw [Trace.waits_append, Trace.waits_of_calm h]
  rfl

theorem leads_receipt (hroom : 0 < s.context.room) (h : Receipt s item received) :
    received.Leads fun t next => (∀ q, t.waits q = 0) ∧ next.left s.context.room <
      s.left s.context.room + item.load (fun m => rests s.context.room m.data.length) := by
  have hitem := item.load_pos fun m : Message => rests s.context.room m.data.length
  cases h with
  | retried => exact ⟨fun _ => rfl, Nat.lt_add_of_pos_right hitem⟩
  | failed =>
    refine ⟨fun q => ?_, Nat.lt_add_of_pos_right hitem⟩
    rw [Trace.waits_append, Trace.waits_speak]
    rfl
  | stuck _ hr => exact absurd hr (Nat.ne_of_gt hroom)
  | notified hd => exact ⟨s.waits_arrival _ (Trace.calm_speak _ _ _), left_taken hroom hd⟩
  | closed hd => exact ⟨s.waits_arrival _ (Trace.still_console _).calm, left_taken hroom hd⟩
  | handled hd =>
    exact ⟨s.waits_arrival _ (calm_handle _ _ _),
      Nat.lt_of_le_of_lt (left_handle _ _ _) (left_taken hroom hd)⟩
  | faulted hd =>
    exact ⟨s.waits_arrival _ (calm_handle _ _ _),
      Nat.lt_of_le_of_lt (left_handle _ _ _) (left_taken hroom hd)⟩

theorem leads_turn (hroom : 0 < s.context.room) (hc : s.token.cancelled = false) :
    s.turn.Leads fun t next => OneWait s.poll s.endpoint.id t ∧
      next.left s.context.room < s.left s.context.room := by
  have hcall {item : Item Message} {t : Trace} {next : Mailbox}
      (hf : s.poll.found = .ready item)
      (h : (∀ q, t.waits q = 0) ∧ next.left s.context.room < (s.called item).left s.context.room +
        item.load (fun m => rests s.context.room m.data.length)) :
      OneWait s.poll s.endpoint.id (s.approach item ++ t) ∧
        next.left s.context.room < s.left s.context.room :=
    ⟨oneWait_call h.1, Nat.lt_of_lt_of_le h.2 (left_called s.context.room hf)⟩
  have hstep := s.step
  generalize s.turn = turn at hstep ⊢
  cases hstep with
  | stopped hs => simp [hc] at hs
  | broken => exact ⟨oneWait (Trace.waits_speak _ _ _), left_polled hc⟩
  | refused => exact ⟨oneWait_alone _ _ _, left_polled hc⟩
  | idle => exact ⟨oneWait_alone _ _ _, left_polled hc⟩
  | @again item _ _ _ hf hr => exact hcall hf (leads_receipt (s := s.called item) hroom hr)
  | @done item _ _ hf hr => exact hcall hf (leads_receipt (s := s.called item) hroom hr)

theorem paced_runOnce (s : Mailbox) (hroom : 0 < s.context.room) :
    ∃ n, n + s.runOnce.state.left s.context.room ≤ s.left s.context.room ∧
      Paced turn (fun s => s.token.cancelled) (fun s t => OneWait s.poll s.endpoint.id t) s n
        s.runOnce := by
  refine paced_loop (fun t => t.context.room = s.context.room) (left s.context.room) true
    (fun t ho => ?_) (fun t ht ho => ?_) (fun t trace next ht h => ?_) s rfl
  · rw [turn, if_pos ho]
  · exact ht ▸ leads_turn (ht ▸ hroom) ho
  · exact (frame_again h).context.room.trans ht

end Messaging.Mailbox

/-- The main loop of a listener takes no more rounds than there is to wait for. -/
theorem Stream.Listener.paced_service (s : Listener) :
    ∃ n, n + s.service.state.remaining ≤ s.remaining ∧
      Paced (round (fun s : Listener => s.token.cancelled) runOnce) (fun s => s.token.cancelled)
        (fun s t => t = s.runOnce.trace) s n s.service := by
  refine paced_loop (fun _ => True) remaining true (fun t ho => ?_) (fun t _ ho => ?_)
    (fun _ _ _ _ _ => trivial) s trivial
  · rw [SctpProbe.round, if_pos ho]
  · have hs := servicing (fun s : Listener => s.token.cancelled) runOnce t
    generalize SctpProbe.round (fun s : Listener => s.token.cancelled) runOnce t = turn at hs ⊢
    cases hs with
    | stopped hc => simp [ho] at hc
    | again => exact ⟨rfl, t.remaining_runOnce ho⟩
    | done => exact ⟨rfl, t.remaining_runOnce ho⟩

theorem Messaging.Mailbox.paced_service (s : Mailbox) :
    ∃ n, n ≤ 1 ∧
      Paced (round (fun s : Mailbox => s.token.cancelled) runOnce) (fun s => s.token.cancelled)
        (fun s t => t = s.runOnce.trace) s n s.service := by
  have hround : ∀ t : Mailbox, t.token.cancelled = true →
      SctpProbe.round (fun s : Mailbox => s.token.cancelled) runOnce t = .done ⟨[], t, .ok true⟩ :=
    fun t h => by rw [SctpProbe.round, if_pos h]
  have hs := servicing (fun s : Mailbox => s.token.cancelled) runOnce s
  generalize hturn : SctpProbe.round (fun s : Mailbox => s.token.cancelled) runOnce s = turn at hs
  cases hs with
  | stopped hc => exact ⟨0, by omega, .stopped (hturn.trans (by rw [s.service_of_cancelled hc])) hc
      (by rw [s.service_of_cancelled hc])⟩
  | done hc => exact ⟨1, by omega, .last (hturn.trans (by rw [s.service_eq hc])) hc
      (by rw [s.service_eq hc])⟩
  | again hc hr =>
    have hover := s.cancelled_runOnce hr
    refine ⟨1, by omega, ?_⟩
    have hrest : Paced (SctpProbe.round (fun s : Mailbox => s.token.cancelled) runOnce)
        (fun s => s.token.cancelled) (fun s t => t = s.runOnce.trace) s 1
        ((⟨[], s.runOnce.state, .ok true⟩ : Ran Mailbox Bool).after s.runOnce.trace) :=
      .again hturn hc rfl (.stopped (hround _ hover) hover rfl)
    rw [s.service_eq hc]
    simpa [Ran.after, ← hr] using hrest

end SctpProbe
