import SctpProbe.Proofs.Frame
import SctpProbe.Proofs.Sending
set_option autoImplicit false

/-!
What a session with echo gives back of what it is given. `delivered` reads off a script what the
peer sends before the session has to end, whatever the size of the buffer; a session takes just
these bytes, in chunks, and answers every chunk before it waits again (`Session.conversation`).
-/

namespace SctpProbe

open Network

namespace Stream

/-- The bytes that arrive before a connection is closed or fails. -/
def delivered (timeout : Value) : Bool → List (Item (List UInt8)) → List UInt8
  | _, [] => []
  | shut, i :: rest =>
    match outcome timeout shut i with
    | .error _ => []
    | .ok (.failed _) => []
    | .ok .ready =>
      match i.delivery with
      | .ok [] => []
      | .ok bytes => bytes ++ delivered timeout (shut || decide (i.poll = .closed)) rest
      | .error e =>
        if e.isTransient then delivered timeout (shut || decide (i.poll = .closed)) rest else []
    | .ok _ => delivered timeout (shut || decide (i.poll = .closed)) rest

/-- A chunk and its echo: what was shown before it, what was sent back, and the reason noted if
there is one. -/
structure Exchange where
  before : Trace
  chunk : List UInt8
  sending : Trace
  note? : Option String

def dump (id : SocketId) (room : Nat) (chunk : List UInt8) : Trace :=
  [.received id room chunk.length] ++
    Trace.speak .info .stream ("Received " ++ toString chunk.length ++ " bytes") ++
    console (HexDump.text "Received data" HexDump.usualWidth chunk)

/-- Whether an event is a wait or an attempt to receive that nothing came of. -/
def isLull (id : SocketId) : Event → Bool
  | .waited s _ _ => s == id
  | .receiveFailed s e => s == id && e.isTransient
  | _ => false

def closingLine : String := "Connection closed by the remote host"

def isLast (id : SocketId) : Event → Bool
  | .waited s _ _ => s == id
  | .receiveFailed s _ => s == id
  | .received s _ count => s == id && count == 0
  | .ended s => s == id
  | .log e => e.level == .error
  | .line text => text == closingLine
  | _ => false

namespace Exchange

def trace (id : SocketId) (room : Nat) (x : Exchange) : Trace :=
  x.before ++ dump id room x.chunk ++ Trace.speak .debug .stream "Echoing data back" ++ x.sending ++
    noted x.note?

/-- The chunk is not empty and fits, and what the connection has taken of it are its first bytes,
all of them exactly if nothing is noted. -/
structure Faithful (id : SocketId) (room : Nat) (x : Exchange) : Prop where
  before : ∀ e ∈ x.before, isLull id e = true
  nonempty : x.chunk ≠ []
  fits : x.chunk.length ≤ room
  calls : ∀ e ∈ x.sending, e.isCall id = true
  part : x.sending.sentOn id <+: x.chunk
  whole : x.sending.sentOn id = x.chunk ↔ x.note? = none

end Exchange

/-- A trace as a row of exchanges over which certain bytes have come, and what follows them. -/
structure Conversed (id : SocketId) (room : Nat) (smooth : Prop) (bytes : List UInt8) (t : Trace)
    (xs : List Exchange) (ending : Trace) : Prop where
  trace : t = xs.flatMap (Exchange.trace id room) ++ ending
  faithful : ∀ x ∈ xs, x.Faithful id room
  chunks : xs.flatMap Exchange.chunk = bytes
  ending : ∀ e ∈ ending, isLast id e = true
  noteless : smooth → ∀ x ∈ xs, x.note? = none

namespace Conversed

variable {id : SocketId} {room : Nat} {smooth : Prop} {bytes : List UInt8} {t : Trace}

theorem last (h : ∀ e ∈ t, isLast id e = true) : Conversed id room smooth [] t [] t :=
  ⟨rfl, by simp, rfl, h, by simp⟩

theorem isLast_of_isLull {e : Event} (h : isLull id e = true) : isLast id e = true := by
  cases e <;> simp_all [isLull, isLast]

theorem lull {u : Trace} {xs : List Exchange} {ending : Trace} (hu : ∀ e ∈ u, isLull id e = true)
    (h : Conversed id room smooth bytes t xs ending) :
    ∃ xs ending, Conversed id room smooth bytes (u ++ t) xs ending := by
  cases xs with
  | nil =>
    refine ⟨[], u ++ ending, ?_, by simp, h.chunks, ?_, by simp⟩
    · simp [h.trace]
    · intro e he
      rcases List.mem_append.1 he with he | he
      · exact isLast_of_isLull (hu e he)
      · exact h.ending e he
  | cons x rest =>
    have hx := h.faithful x List.mem_cons_self
    refine ⟨{ x with before := u ++ x.before } :: rest, ending, ?_, ?_, h.chunks, h.ending, ?_⟩
    · simp [h.trace, Exchange.trace]
    · intro y hy
      rcases List.mem_cons.1 hy with rfl | hy
      · refine ⟨?_, hx.nonempty, hx.fits, hx.calls, hx.part, hx.whole⟩
        intro e he
        rcases List.mem_append.1 he with he | he
        · exact hu e he
        · exact hx.before e he
      · exact h.faithful y (List.mem_cons_of_mem _ hy)
    · intro hs y hy
      rcases List.mem_cons.1 hy with rfl | hy
      · exact h.noteless hs x List.mem_cons_self
      · exact h.noteless hs y (List.mem_cons_of_mem _ hy)

theorem exchange {x : Exchange} {xs : List Exchange} {ending : Trace} (hx : x.Faithful id room)
    (hn : smooth → x.note? = none) (h : Conversed id room smooth bytes t xs ending) :
    Conversed id room smooth (x.chunk ++ bytes) (x.trace id room ++ t) (x :: xs) ending := by
  refine ⟨?_, ?_, ?_, h.ending, ?_⟩
  · simp [h.trace]
  · intro y hy
    rcases List.mem_cons.1 hy with rfl | hy
    · exact hx
    · exact h.faithful y hy
  · simp [h.chunks]
  · intro hs y hy
    rcases List.mem_cons.1 hy with rfl | hy
    · exact hn hs
    · exact h.noteless hs y hy

theorem weaken {other : Prop} {xs : List Exchange} {ending : Trace} (hw : other → smooth)
    (h : Conversed id room smooth bytes t xs ending) : Conversed id room other bytes t xs ending :=
  ⟨h.trace, h.faithful, h.chunks, h.ending, fun ho => h.noteless (hw ho)⟩

end Conversed

theorem delivered_deferred {timeout : Value} {shut : Bool}
    (h : ∀ bytes : List UInt8, outcome timeout shut (Item.delivering bytes) = .ok .ready)
    (room : Nat)
    (bytes : List UInt8) (rest : List (Item (List UInt8))) :
    delivered timeout shut (Session.deferred room bytes ++ rest) =
      bytes.drop room ++ delivered timeout shut rest := by
  unfold Session.deferred
  cases hd : bytes.drop room with
  | nil => rfl
  | cons b bs =>
    simp only [List.cons_append, List.nil_append, delivered, h]
    simp [Item.delivering, Item.delivery]

namespace Session

def owed (s : Session) : List UInt8 :=
  delivered s.context.config.pollTimeout.toValue s.endpoint.shut s.endpoint.script

/-- A session with echo that nobody disturbs, with a timeout for sending that ends every echo. -/
structure Attentive (limit : Limit) (s : Session) : Prop where
  awake : s.token.cancelled = false
  echo : s.context.echo.truthy = true
  room : 0 < s.context.room
  quiet : ∀ i ∈ s.endpoint.script, i.quiet = true
  timeout : Limit.ofValue s.context.config.sendTimeout = .ok limit
  patient : limit = .never → .stall ∉ s.endpoint.sends

def Smooth (limit : Limit) (s : Session) : Prop :=
  ample limit = true ∧ ∀ x ∈ s.endpoint.sends, x.smooth = true

section

variable {s : Session} {i : Item (List UInt8)} {rest : List (Item (List UInt8))}

theorem polled_of_cons (hs : s.endpoint.script = i :: rest) (hq : i.quiet = true) :
    s.polled = { s with
      endpoint.script := rest, endpoint.shut := s.endpoint.shut || decide (i.poll = .closed) } := by
  simp [polled, poll, Endpoint.beginning, Endpoint.advanced, hs, Token.strike_quiet hq]

theorem poll_of_cons (hs : s.endpoint.script = i :: rest) (hq : i.quiet = true) :
    (∃ f, outcome s.context.config.pollTimeout.toValue s.endpoint.shut i = .error f ∧
      s.poll.trace = [] ∧ s.poll.found = .refused f) ∨
    ∃ o, outcome s.context.config.pollTimeout.toValue s.endpoint.shut i = .ok o ∧
      s.poll.trace = [.waited s.endpoint.id s.context.config.pollTimeout.toValue o] ∧
      s.poll.found = .ofOutcome (some i) o := by
  have hw := wait_cases s.context.config.pollTimeout.toValue s.token s.endpoint
  simpa [poll, Endpoint.beginning, Endpoint.prospect, hs, Token.strike_quiet hq] using hw

theorem ready_of_cons {item : Item (List UInt8)} (hs : s.endpoint.script = i :: rest)
    (hq : i.quiet = true)
    (hf : s.poll.found = .ready item) : i = item ∧
      outcome s.context.config.pollTimeout.toValue s.endpoint.shut i = .ok .ready ∧
      s.poll.trace = [.waited s.endpoint.id s.context.config.pollTimeout.toValue .ready] := by
  rcases poll_of_cons hs hq with ⟨f, ho, hw, hf'⟩ | ⟨o, ho, hw, hf'⟩
  · simp [hf'] at hf
  · rw [hf'] at hf
    obtain ⟨rfl, hi⟩ := Found.ofOutcome_ready hf
    cases hi
    exact ⟨rfl, ho, hw⟩

theorem called_of_quiet (hq : i.quiet = true) : s.called i = s.polled := by
  simp [called, Token.strike_quiet hq, polled]

theorem approach_of_quiet (hq : i.quiet = true) : s.approach i = s.poll.trace := by
  simp [approach, Token.strike_quiet hq]

theorem poll_of_nil (hs : s.endpoint.script = []) :
    s.polled.token.cancelled = true ∧ ∀ e ∈ s.poll.trace, isLast s.endpoint.id e = true := by
  have hb : s.endpoint.beginning s.token = ([.ended s.endpoint.id], s.token.cancel) := by
    simp [Endpoint.beginning, hs]
  refine ⟨?_, ?_⟩
  · simp [polled, poll, hb, Token.cancel]
  · rcases wait_cases s.context.config.pollTimeout.toValue s.token s.endpoint with
      ⟨f, -, ht, -⟩ | ⟨o, -, ht, -⟩
    · simp [poll, ht, hb, isLast]
    · simp [poll, ht, hb, isLast]

theorem Attentive.polled {limit : Limit} (h : Attentive limit s)
    (hs : s.endpoint.script = i :: rest) :
    Attentive limit s.polled := by
  have hq : ∀ j ∈ i :: rest, j.quiet = true := by
    rw [← hs]
    exact h.quiet
  rw [polled_of_cons hs (hq i List.mem_cons_self)]
  exact ⟨h.awake, h.echo, h.room, fun j hj => hq j (List.mem_cons_of_mem i hj), h.timeout,
    h.patient⟩

theorem owed_polled (hs : s.endpoint.script = i :: rest) (hq : i.quiet = true) :
    s.polled.owed = delivered s.context.config.pollTimeout.toValue
      (s.endpoint.shut || decide (i.poll = .closed)) rest := by
  rw [polled_of_cons hs hq, owed]

theorem owed_of_bytes {bytes : List UInt8} (hs : s.endpoint.script = i :: rest)
    (hq : i.quiet = true)
    (ho : outcome s.context.config.pollTimeout.toValue s.endpoint.shut i = .ok .ready)
    (hb : bytes ≠ []) (hd : i.delivery = .ok bytes) : s.owed = bytes ++ s.polled.owed := by
  rw [owed_polled hs hq, owed, hs, delivered, ho, hd]
  cases bytes with
  | nil => exact absurd rfl hb
  | cons b bs => rfl

theorem smooth_polled {limit : Limit} (hs : s.endpoint.script = i :: rest) (hq : i.quiet = true)
    (h : Smooth limit s) : Smooth limit s.polled := by
  rw [polled_of_cons hs hq]
  exact h

theorem console_closing : console closingLine = [.line closingLine] := by
  have h : Text.split '\n' (Text.Ansi.strip closingLine.toList) = [closingLine.toList] := by
    decide +kernel
  simp [console, h]

theorem exchange_of_echoed {limit : Limit} (h : Attentive limit s) (hq : i.quiet = true)
    {bytes : List UInt8} (hc : s.chunk bytes ≠ []) :
    ∃ sending note?, Echoes limit s.endpoint.id s.endpoint.sends s.token
      (s.chunk bytes) sending note?
      (s.reply i bytes) :=
  echoes h.timeout h.patient (Item.spares_of_quiet hq) hc s.endpoint.id s.token

theorem Attentive.replied {limit : Limit} (h : Attentive limit s) {bytes : List UInt8}
    {sending : Trace} {note? : Option String}
    (he : Echoes limit s.endpoint.id s.endpoint.sends s.token (s.chunk bytes) sending note?
      (s.reply i bytes)) : Attentive limit (s.replied i bytes) := by
  refine ⟨?_, h.echo, ?_, ?_, h.timeout, ?_⟩
  · change (s.reply i bytes).token.cancelled = false
    rw [he.token]
    exact h.awake
  · have hk := (s.kept_taken bytes).room
    change 0 < (s.taken bytes).context.room
    rw [hk]
    exact h.room
  · intro j hj
    rcases List.mem_append.1 hj with hj | hj
    · obtain ⟨rest, -, -, rfl⟩ := mem_deferred hj
      rfl
    · exact h.quiet j hj
  · intro hn hm
    exact h.patient hn (he.rest.subset hm)

theorem owed_replied {bytes : List UInt8}
    (hr : ∀ bs : List UInt8, outcome s.context.config.pollTimeout.toValue s.endpoint.shut
      (Item.delivering bs) = .ok .ready) :
    s.chunk bytes ++ (s.replied i bytes).owed = bytes ++ s.owed := by
  have hd := delivered_deferred hr s.context.room bytes s.endpoint.script
  rw [owed, owed]
  change s.chunk bytes ++ delivered s.context.config.pollTimeout.toValue s.endpoint.shut
    (deferred s.context.room bytes ++ s.endpoint.script) = _
  rw [hd, ← List.append_assoc, chunk, List.take_append_drop]

end

section

variable {limit : Limit} {s : Session} {i : Item (List UInt8)} {rest : List (Item (List UInt8))}

theorem last_of_nil {ran : Ran Session Bool} (hs : s.endpoint.script = [])
    (hst : Step s (.done ran)) :
    ∀ e ∈ ran.trace, isLast s.endpoint.id e = true := by
  have hw := (poll_of_nil hs).2
  cases hst with
  | stopped hc => simp
  | broken hc hf =>
    intro e he
    rcases List.mem_append.1 he with he | he
    · exact hw e he
    · simp only [Trace.speak, List.mem_singleton] at he
      subst he
      rfl
  | refused hc hf => exact hw
  | done hc hf hr =>
    have := (wait_of_ready hf).2.1
    simp [hs] at this

/-- A receive that ends a session brings nothing. -/
theorem last_of_receipt {ran : Ran Session Bool} (h : Attentive limit s)
    (hs : s.endpoint.script = i :: rest)
    (ho : outcome s.context.config.pollTimeout.toValue s.endpoint.shut i = .ok .ready)
    (hr : Receipt s.polled i (.done ran)) :
    s.owed = [] ∧ ∀ e ∈ ran.trace, isLast s.endpoint.id e = true := by
  have ha := h.polled hs
  cases hr with
  | @failed e hd ht =>
    refine ⟨by simp [owed, hs, delivered, ho, hd, ht], ?_⟩
    intro e' he
    simp only [Trace.speak, List.mem_append, List.mem_singleton] at he
    rcases he with rfl | rfl
    · simp [isLast]
    · rfl
  | @closed bytes hd hn =>
    have hb : bytes = [] := by
      have hroom := ha.room
      rw [chunk, List.take_eq_nil_iff] at hn
      rcases hn with hn | hn
      · omega
      · exact hn
    subst hb
    refine ⟨by simp [owed, hs, delivered, ho, hd], ?_⟩
    intro e' he
    change e' ∈ [_] ++ console closingLine at he
    rw [console_closing] at he
    simp only [List.mem_append, List.mem_singleton] at he
    rcases he with rfl | rfl
    · simp [isLast]
    · simp [isLast]
  | @aborted bytes f hd hn he hr =>
    obtain ⟨sending, note?, hx⟩ := exchange_of_echoed ha (h.quiet i (by simp [hs])) hn
    rw [hx.result] at hr
    simp at hr

theorem conversed_done {ran : Ran Session Bool} (hturn : s.turn = .done ran)
    (h : Attentive limit s) :
    s.owed = [] ∧ ∀ e ∈ ran.trace, isLast s.endpoint.id e = true := by
  have hst := step_done hturn
  cases hs : s.endpoint.script with
  | nil => exact ⟨by simp [owed, hs, delivered], last_of_nil hs hst⟩
  | cons i rest =>
    have hq : i.quiet = true := h.quiet i (by simp [hs])
    cases hst with
    | stopped hc => simp [h.awake] at hc
    | @broken e hc hf =>
      rcases poll_of_cons hs hq with ⟨f, ho, hw, hf'⟩ | ⟨o, ho, hw, hf'⟩
      · simp [hf'] at hf
      · rw [hf'] at hf
        have hfail := Found.ofOutcome_broken hf
        subst hfail
        refine ⟨by simp [owed, hs, delivered, ho], ?_⟩
        intro e he
        simp only [hw, Trace.speak, List.mem_append, List.mem_singleton] at he
        rcases he with rfl | rfl
        · simp [isLast]
        · rfl
    | @refused f hc hf =>
      rcases poll_of_cons hs hq with ⟨f, ho, hw, hf'⟩ | ⟨o, ho, hw, hf'⟩
      · refine ⟨by simp [owed, hs, delivered, ho], ?_⟩
        simp [hw]
      · rw [hf'] at hf
        exact absurd hf (Found.ofOutcome_ne_refused _ _ _)
    | @done item ran hc hf hr =>
      obtain ⟨rfl, ho, hw⟩ := ready_of_cons hs hq hf
      rw [called_of_quiet hq] at hr
      obtain ⟨howed, hlast⟩ := last_of_receipt h hs ho hr
      refine ⟨howed, fun e he => ?_⟩
      rw [Ran.trace_after, approach_of_quiet hq, hw] at he
      rcases List.mem_append.1 he with he | he
      · rw [List.mem_singleton] at he
        subst he
        simp [isLast]
      · exact hlast e he

theorem conversed_echoed {bytes : List UInt8} {t : Trace} (h : Attentive limit s)
    (hs : s.endpoint.script = i :: rest)
    (ho : outcome s.context.config.pollTimeout.toValue s.endpoint.shut i = .ok .ready)
    (hd : i.delivery = .ok bytes) (hn : s.polled.chunk bytes ≠ [])
    (hnext : Attentive limit (s.polled.replied i bytes) → ∃ xs ending,
      Conversed s.endpoint.id s.context.room (Smooth limit (s.polled.replied i bytes))
        (s.polled.replied i bytes).owed t xs ending) :
    ∃ xs ending, Conversed s.endpoint.id s.context.room (Smooth limit s) s.owed
      ([.waited s.endpoint.id s.context.config.pollTimeout.toValue .ready] ++
        (s.polled.report bytes ++ (s.polled.reply i bytes).trace) ++ t) xs ending := by
  have hq : i.quiet = true := h.quiet i (by simp [hs])
  have hid := s.frame_polled.id
  obtain ⟨sending, note?, hx⟩ := exchange_of_echoed (h.polled hs) hq hn
  obtain ⟨xs, ending, hv⟩ := hnext ((h.polled hs).replied hx)
  have hsr : Smooth limit s → Smooth limit (s.polled.replied i bytes) := fun hsm =>
    ⟨hsm.1, fun x hm => (smooth_polled hs hq hsm).2 x (hx.rest.subset hm)⟩
  have hbytes : s.owed = s.polled.chunk bytes ++ (s.polled.replied i bytes).owed := by
    have hb : bytes ≠ [] := by
      rintro rfl
      simp [chunk] at hn
    rw [owed_of_bytes hs hq ho hb hd]
    refine (owed_replied fun bs => ?_).symm
    have hra := ready_again ho bs
    rwa [polled_of_cons hs hq]
  rw [hid] at hx
  let x : Exchange :=
    ⟨[.waited s.endpoint.id s.context.config.pollTimeout.toValue .ready], s.polled.chunk bytes,
    sending, note?⟩
  have hfaith : x.Faithful s.endpoint.id s.context.room :=
    ⟨by simp [x, isLull], hn, s.polled.length_chunk_le bytes, hx.calls, hx.part, hx.whole⟩
  have htrace : x.trace s.endpoint.id s.context.room =
      [.waited s.endpoint.id s.context.config.pollTimeout.toValue .ready] ++
        (s.polled.report bytes ++ (s.polled.reply i bytes).trace) := by
    rw [hx.trace, report, hid]
    simp [x, Exchange.trace, dump]
    rfl
  rw [hbytes, ← htrace]
  refine ⟨_, _, (hv.weaken hsr).exchange hfaith fun hsm => ?_⟩
  exact hx.smooth hsm.1 (smooth_polled hs hq hsm).2

theorem conversed_again {next : Session} {trace t : Trace} (hturn : s.turn = .again trace next)
    (h : Attentive limit s) (hstop : next.token.cancelled = true → t = [])
    (hnext : Attentive limit next → ∃ xs ending,
      Conversed next.endpoint.id next.context.room (Smooth limit next) next.owed t xs ending) :
    ∃ xs ending,
      Conversed s.endpoint.id s.context.room (Smooth limit s) s.owed (trace ++ t) xs ending := by
  have hst := step_again hturn
  cases hs : s.endpoint.script with
  | nil =>
    cases hst with
    | idle hc hf =>
      have hp := poll_of_nil hs
      rw [hstop hp.1, List.append_nil, owed, hs]
      exact ⟨[], _, .last hp.2⟩
    | again hc hf hr =>
      have := (wait_of_ready hf).2.1
      simp [hs] at this
  | cons i rest =>
    have hq : i.quiet = true := h.quiet i (by simp [hs])
    have ha := h.polled hs
    have hid := s.frame_polled.id
    cases hst with
    | idle hc hf =>
      rcases poll_of_cons hs hq with ⟨f, ho, hw, hf'⟩ | ⟨o, ho, hw, hf'⟩
      · simp [hf'] at hf
      · obtain ⟨xs, ending, hx⟩ := hnext ha
        have howed : s.owed = s.polled.owed := by
          rw [owed_polled hs hq, owed, hs, delivered, ho]
          cases o with
          | ready => simp [hf', Found.ofOutcome] at hf
          | failed e => simp [hf', Found.ofOutcome] at hf
          | timedOut => rfl
          | interrupted => rfl
        rw [hid] at hx
        rw [hw, howed]
        exact (hx.weaken (smooth_polled hs hq)).lull (by simp [isLull])
    | @again item rest' next hc hf hr =>
      obtain ⟨rfl, ho, hw⟩ := ready_of_cons hs hq hf
      rw [called_of_quiet hq] at hr
      rw [approach_of_quiet hq, hw]
      cases hr with
      | @retried e hd ht =>
        obtain ⟨xs, ending, hx⟩ := hnext ha
        have hl : s.owed = s.polled.owed := by
          rw [owed_polled hs hq, owed, hs, delivered, ho, hd]
          simp [ht]
        rw [hid] at hx
        rw [hl]
        refine (hx.weaken (smooth_polled hs hq)).lull ?_
        simp [isLull, ht]
      | dumped hd hn he =>
        rw [ha.echo] at he
        simp at he
      | @echoed bytes hd hn he hr =>
        refine conversed_echoed h hs ho hd hn fun hrep => ?_
        have hroom : (s.polled.replied i bytes).context.room = s.context.room :=
          (s.polled.kept_taken bytes).room
        have hrid : (s.polled.replied i bytes).endpoint.id = s.endpoint.id := hid
        have hv := hnext hrep
        rwa [hroom, hrid] at hv

/-- A session takes what the peer sends and answers it chunk by chunk. -/
theorem conversation (limit : Limit) (s : Session) :
    (s.token.cancelled = true → s.run.trace = []) ∧
    (Attentive limit s → ∃ xs ending, Conversed s.endpoint.id s.context.room (Smooth limit s) s.owed
      s.run.trace xs ending) := by
  refine loop_induction (fun s ran => (s.token.cancelled = true → ran.trace = []) ∧
    (Attentive limit s → ∃ xs ending, Conversed s.endpoint.id s.context.room (Smooth limit s) s.owed
      ran.trace xs ending)) ?_ ?_ s
  · intro s ran hturn
    refine ⟨fun hc => ?_, fun h => ?_⟩
    · unfold turn at hturn
      simp only [hc, if_true, Turn.done.injEq] at hturn
      rw [← hturn]
    · obtain ⟨ho, hl⟩ := conversed_done hturn h
      rw [ho]
      exact ⟨[], ran.trace, .last hl⟩
  · intro s trace next ran hturn ih
    refine ⟨fun hc => ?_, fun h => conversed_again hturn h ih.1 ih.2⟩
    unfold turn at hturn
    simp [hc] at hturn

theorem sentOn_of_isLast {id : SocketId} {t : Trace} (h : ∀ e ∈ t, isLast id e = true) :
    t.sentOn id = [] := by
  unfold Trace.sentOn
  rw [List.flatMap_eq_nil_iff]
  intro e he
  have h0 := h e he
  cases e <;> simp_all [isLast]

theorem sentOn_dump (id : SocketId) (room : Nat) (chunk : List UInt8) :
    (dump id room chunk).sentOn id = [] := by
  unfold Trace.sentOn
  rw [List.flatMap_eq_nil_iff]
  intro e he
  simp only [dump, Trace.speak, console, List.mem_append, List.mem_singleton, List.mem_map] at he
  rcases he with (rfl | rfl) | ⟨_, -, rfl⟩ <;> rfl

theorem sentOn_exchange {id : SocketId} {room : Nat} {x : Exchange} (h : x.Faithful id room)
    (hn : x.note? = none) : (x.trace id room).sentOn id = x.chunk := by
  have hb : x.before.sentOn id = [] :=
    sentOn_of_isLast fun e he => Conversed.isLast_of_isLull (h.before e he)
  have hs : Trace.sentOn id (Trace.speak .debug .stream "Echoing data back") = [] := rfl
  have hw := h.whole.2 hn
  simp [Exchange.trace, hb, sentOn_dump, hs, hw, hn, noted]

theorem sentOn_exchanges {id : SocketId} {room : Nat} {xs : List Exchange}
    (h : ∀ x ∈ xs, x.Faithful id room) (hn : ∀ x ∈ xs, x.note? = none) :
    Trace.sentOn id (xs.flatMap (Exchange.trace id room)) = xs.flatMap Exchange.chunk := by
  induction xs with
  | nil => rfl
  | cons x rest ih =>
    have hx := sentOn_exchange (h x List.mem_cons_self) (hn x List.mem_cons_self)
    have hr := ih (fun y hy => h y (List.mem_cons_of_mem _ hy)) fun y hy =>
      hn y (List.mem_cons_of_mem _ hy)
    simp [hx, hr]

/-- The trace of a session with echo is a row of exchanges, whose chunks make up what the peer sends
before the connection is closed or fails. Unless a call fails or stalls, or the timeout leaves time
for a single call only, the peer gets back what it has sent. -/
theorem echo_fidelity (h : Attentive limit s) : ∃ (xs : List Exchange) (ending : Trace),
    s.run.trace = xs.flatMap (Exchange.trace s.endpoint.id s.context.room) ++ ending ∧
    (∀ x ∈ xs, x.Faithful s.endpoint.id s.context.room) ∧
    xs.flatMap Exchange.chunk = s.owed ∧
    (∀ e ∈ ending, isLast s.endpoint.id e = true) ∧
    (ample limit = true → (∀ x ∈ s.endpoint.sends, x.smooth = true) →
      s.run.trace.sentOn s.endpoint.id = s.owed) := by
  obtain ⟨xs, ending, hc⟩ := (conversation limit s).2 h
  refine ⟨xs, ending, hc.trace, hc.faithful, hc.chunks, hc.ending, fun ha hs => ?_⟩
  have hn := hc.noteless ⟨ha, hs⟩
  rw [hc.trace, Trace.sentOn_append, sentOn_exchanges hc.faithful hn, sentOn_of_isLast hc.ending,
    List.append_nil, hc.chunks]

def halting (sendTimeout : Value) : Session where
  token := Token.fresh
  endpoint := ⟨.connection 0, [.delivering [104, 105, 106]], [.accept 1], false⟩
  context := ⟨{ Config.usual with sendTimeout := sendTimeout }, none, [0, 0], .bool false,
    .bool true⟩

theorem echo_fidelity_halting :
    (halting (.float Settings.one)).run.trace.sentOn (.connection 0) = [104, 105, 106] := by
  have ha : Attentive .running (halting (.float Settings.one)) :=
    ⟨rfl, rfl, by decide, by decide, rfl, by simp⟩
  obtain ⟨xs, ending, -, -, -, -, h⟩ := echo_fidelity ha
  rw [show SocketId.connection 0 = (halting (.float Settings.one)).endpoint.id from rfl,
    h rfl (by decide)]
  decide +kernel

/-- A timeout can be longer than none and too short for the rest of a chunk. -/
theorem cut_of_instant : ¬ ∀ s : Session, s.token.cancelled = false → s.context.echo.truthy = true →
    0 < s.context.room → (∀ i ∈ s.endpoint.script, i.quiet = true) →
    (∀ x ∈ s.endpoint.sends, x.smooth = true) →
    (s.context.config.sendTimeout = .nothing ∨
      ∃ n, Number.ofValue? s.context.config.sendTimeout = some n ∧ n.above 0 = true) →
    s.run.trace.sentOn s.endpoint.id = s.owed := by
  intro h
  have h0 := h (halting (.float (Binary64.ofDecimal false 5 (-10)))) rfl rfl (by decide) (by decide)
    (by decide) (.inr ⟨_, rfl, by decide +kernel⟩)
  exact absurd h0 (by decide +kernel)

end

end Session

end Stream

end SctpProbe
