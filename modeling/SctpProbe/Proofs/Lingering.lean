import Mathlib.Data.List.Basic
import SctpProbe.Proofs.Blocking
import SctpProbe.Proofs.Heeding
set_option autoImplicit false

/-!
Echoes that begin after a request to stop. Such an echo is the last thing that its session does
(`echo_lingers`), but it takes as long as if nobody had asked: the token has no part in it. It is
over with its first call only if that call takes the whole chunk or fails for good
(`prompt_iff`); otherwise the socket is waited for, up to the send timeout.
-/

namespace SctpProbe

open Network

namespace Network

variable {α : Type}

theorem Token.trace_strike_eq (t t' : Token) (i : Item α) (m : Moment) :
    (t'.strike i m).1 = (t.strike i m).1 := by
  simp only [strike, stopAt, signalAt]
  repeat' split
  all_goals rfl

end Network

namespace Stream

section

variable (id : SocketId) (item : Item (List UInt8))

/-- The same transmission but for the token. -/
structure Transmission.Same (r r' : Transmission) : Prop where
  trace : r'.trace = r.trace
  sends : r'.sends = r.sends
  delivery : r'.delivery = r.delivery

theorem transmit_regardless (instant waiting : Bool) (sends : List Send) (t t' : Token)
    (bytes : List UInt8) : (transmit id item instant waiting sends t bytes).Same
      (transmit id item instant waiting sends t' bytes) := by
  induction sends generalizing waiting t t' bytes with
  | nil =>
    unfold transmit
    simp only [t.trace_strike_eq t' item .send]
    split <;> exact ⟨rfl, rfl, rfl⟩
  | cons s rest ih =>
    have hlater (bytes : List UInt8) :=
      ih true (t.strike item .send).2 (t'.strike item .send).2 bytes
    unfold transmit
    simp only [t.trace_strike_eq t' item .send]
    split
    · exact ⟨rfl, rfl, rfl⟩
    · cases s with
      | stall =>
        simp only
        split <;> exact ⟨rfl, rfl, rfl⟩
      | accept count =>
        simp only
        split
        · exact ⟨rfl, rfl, rfl⟩
        · have h := hlater (bytes.drop count)
          exact ⟨by simp only [h.trace], h.sends, h.delivery⟩
      | block =>
        have h := hlater bytes
        exact ⟨by simp only [h.trace], h.sends, h.delivery⟩
      | fail e =>
        simp only
        split
        · have h := hlater bytes
          exact ⟨by simp only [h.trace], h.sends, h.delivery⟩
        · exact ⟨rfl, rfl, rfl⟩

structure Echoed.Same (e e' : Echoed) : Prop where
  trace : e'.trace = e.trace
  sends : e'.sends = e.sends
  result : e'.result = e.result

/-- An echo takes its course whatever has been asked for. -/
theorem echo_regardless (sendTimeout : Value) (sends : List Send) (t t' : Token)
    (bytes : List UInt8) : (echo sendTimeout id item sends t bytes).Same
      (echo sendTimeout id item sends t' bytes) := by
  unfold echo
  simp only
  split
  · exact ⟨rfl, rfl, rfl⟩
  · exact ⟨rfl, rfl, rfl⟩
  · next limit _ _ =>
    have h := transmit_regardless id item (limit = .instant) false sends t t' bytes
    rw [h.delivery]
    split
    · exact ⟨by simp only [h.trace], h.sends, rfl⟩
    · exact ⟨by simp only [h.trace], h.sends, rfl⟩
    · split
      · exact ⟨by simp only [h.trace], h.sends, rfl⟩
      · exact ⟨by simp only [h.trace], h.sends, rfl⟩

def settles : List Send → List UInt8 → Bool
  | [], _ => true
  | .accept count :: _, bytes => bytes.length ≤ count
  | .fail e :: _, _ => !e.isTransient
  | .block :: _, _ => false
  | .stall :: _, _ => false

/-- A socket that is waited for either stays blocked or is called again. -/
theorem stalled_or_called (instant : Bool) (sends : List Send) (token : Token)
    (bytes : List UInt8) :
    (transmit id item instant true sends token bytes).delivery = .stalled ∨
      0 < Trace.calls id (transmit id item instant true sends token bytes).trace := by
  have hmore {first : Trace} (h : Trace.calls id first = 1) (later : Trace) :
      0 < Trace.calls id (first ++ later) := by
    rw [Trace.calls_append, h]
    omega
  unfold transmit
  simp only [Bool.and_true]
  split
  · exact .inl rfl
  · cases sends with
    | nil => exact .inr (by simp)
    | cons s rest =>
      cases s with
      | stall => exact .inl rfl
      | accept count =>
        simp only
        split
        · exact .inr (by simp)
        · exact .inr (hmore (by simp) _)
      | block => exact .inr (hmore (by simp) _)
      | fail e =>
        simp only
        split
        · exact .inr (hmore (by simp) _)
        · exact .inr (by simp)

/-- A transmission is over with its first call, without the socket being waited for, only if that
call settles the matter. -/
theorem prompt_transmit_iff (instant : Bool) (sends : List Send) (token : Token)
    (bytes : List UInt8) :
    (Trace.calls id (transmit id item instant false sends token bytes).trace ≤ 1 ∧
      (transmit id item instant false sends token bytes).delivery ≠ .stalled) ↔
    settles sends bytes = true := by
  -- A call that leaves something to send makes for a wait, in vain or with a call behind it.
  have hlater {first : Trace} (hfirst : Trace.calls id first = 1) (rest : List Send) (t : Token)
      (bytes : List UInt8) :
      ¬ (Trace.calls id (first ++ (transmit id item instant true rest t bytes).trace) ≤ 1 ∧
        (transmit id item instant true rest t bytes).delivery ≠ .stalled) := by
    rintro ⟨hcalls, hd⟩
    have hmore := (stalled_or_called id item instant rest t bytes).resolve_left hd
    rw [Trace.calls_append, hfirst] at hcalls
    omega
  unfold transmit
  simp only [Bool.and_false, Bool.false_eq_true, if_false]
  cases sends with
  | nil => simp [settles]
  | cons s rest =>
    cases s with
    | stall => simp [settles]
    | accept count =>
      simp only [settles]
      split
      · next hc => simp [hc]
      · next hc => simpa [hc] using hlater (Trace.calls_sent ..) rest _ (bytes.drop count)
    | block => simpa [settles] using hlater (Trace.calls_sendFailed ..) rest _ bytes
    | fail e =>
      simp only [settles]
      split
      · next ht => simpa [ht] using hlater (Trace.calls_sendFailed ..) rest _ bytes
      · next ht => simp [Bool.eq_false_iff.2 ht]

/-- Whether an echo is given up because of its timeout, or would be if it had one. -/
def Overdue (sendTimeout : Value) (sends : List Send) (token : Token) (bytes : List UInt8) : Prop :=
  ∃ limit, Limit.ofValue sendTimeout = .ok limit ∧ (limit = .expired ∨
    (transmit id item (limit = .instant) false sends token bytes).delivery = .stalled)

/-- Whether one call at most is made in an echo that is not overdue. -/
def Prompt (sendTimeout : Value) (sends : List Send) (token : Token) (bytes : List UInt8) : Prop :=
  Trace.calls id (echo sendTimeout id item sends token bytes).trace ≤ 1 ∧
    ¬ Overdue id item sendTimeout sends token bytes

theorem calls_echo {sendTimeout : Value} {limit : Limit}
    (hl : Limit.ofValue sendTimeout = .ok limit) (hexp : limit ≠ .expired) (sends : List Send)
    (token : Token) (bytes : List UInt8) :
    Trace.calls id (echo sendTimeout id item sends token bytes).trace =
      Trace.calls id (transmit id item (limit = .instant) false sends token bytes).trace := by
  have hnote (reason : String) : Trace.calls id (failureNote reason) = 0 := rfl
  unfold echo
  rw [hl]
  split
  · next h => cases h
  · next h => exact absurd (Except.ok.inj h) hexp
  · next limit' _ h =>
    cases h
    generalize transmit id item (limit = .instant) false sends token bytes = r
    simp only
    split
    · simp [Trace.calls_append, Trace.calls_speak]
    · simp [Trace.calls_append, Trace.calls_speak, hnote]
    · split <;> simp [Trace.calls_append, Trace.calls_speak, hnote]

theorem prompt_iff (sendTimeout : Value) (sends : List Send) (token : Token) (bytes : List UInt8) :
    Prompt id item sendTimeout sends token bytes ↔
      match Limit.ofValue sendTimeout with
      | .error _ => True
      | .ok .expired => False
      | .ok _ => settles sends bytes = true := by
  cases hl : Limit.ofValue sendTimeout with
  | error f =>
    simp [Prompt, Overdue, hl, echo, Trace.calls_speak]
  | ok limit =>
    by_cases hexp : limit = .expired
    · subst hexp
      simp [Prompt, Overdue, hl]
    · have hcalls := calls_echo id item hl hexp sends token bytes
      have h := prompt_transmit_iff id item (limit = .instant) sends token bytes
      have hprompt : Prompt id item sendTimeout sends token bytes ↔ settles sends bytes = true := by
        rw [← h, Prompt, hcalls, Overdue]
        simp [hl, hexp]
      cases limit with
      | expired => exact absurd rfl hexp
      | _ => exact hprompt

def echoing : Event := .log (.plain .debug .stream "Echoing data back")

theorem echoing_not_mem_stops {t : Trace} (h : ∀ e ∈ t, e.isStop = true) : echoing ∉ t := by
  intro he
  have := h _ he
  cases this

theorem echoing_not_mem_transmit (instant waiting : Bool) (sends : List Send) (token : Token)
    (bytes : List UInt8) :
    echoing ∉ (transmit id item instant waiting sends token bytes).trace := by
  have hcomposes : Composes fun _ u _ => echoing ∉ u :=
    ⟨fun _ => List.not_mem_nil, fun h k => by simp [h, k]⟩
  refine composed_transmit hcomposes instant waiting sends token fun t e he => ?_
  rw [List.mem_append, not_or]
  exact ⟨echoing_not_mem_stops (t.isStop_strike item .send), by cases he <;> simp [echoing]⟩

theorem exists_trace_echo (sendTimeout : Value) (sends : List Send) (token : Token)
    (bytes : List UInt8) : ∃ rest,
      (echo sendTimeout id item sends token bytes).trace = echoing :: rest ∧ echoing ∉ rest := by
  have hnote (reason : String) : echoing ∉ failureNote reason := by
    simp [echoing, failureNote, Trace.speak, Log.Entry.plain]
  have hsent (instant : Bool) := echoing_not_mem_transmit id item instant false sends token bytes
  unfold echo
  simp only
  split
  · exact ⟨[], rfl, by simp⟩
  · exact ⟨failureNote "", rfl, hnote _⟩
  · next limit _ _ =>
    have hsent := hsent (limit = .instant)
    generalize transmit id item (limit = .instant) false sends token bytes = r at hsent ⊢
    split
    · exact ⟨r.trace, rfl, hsent⟩
    · exact ⟨r.trace ++ failureNote _, rfl, by simp [hsent, hnote]⟩
    · split
      · exact ⟨r.trace, rfl, hsent⟩
      · exact ⟨r.trace ++ failureNote "", rfl, by simp [hsent, hnote]⟩

end

namespace Session

variable {s next : Session} {item : Item (List UInt8)} {trace : Trace} {ran : Ran Session Bool}

/-- The last echo of a session, begun after a request to stop. -/
structure Lingers (s : Session) (ran : Ran Session Bool) (after : Trace) (item : Item (List UInt8))
    (sends : List Send) (token : Token) (bytes : List UInt8) : Prop where
  left : sends <:+ s.endpoint.sends
  chunk : bytes ≠ []
  cancelled : token.cancelled = true
  trace : echoing :: after =
    (echo s.context.config.sendTimeout s.endpoint.id item sends token bytes).trace
  rest : ran.state.endpoint.sends =
    (echo s.context.config.sendTimeout s.endpoint.id item sends token bytes).sends
  result : ran.result =
    (echo s.context.config.sendTimeout s.endpoint.id item sends token bytes).result.map fun _ =>
      true

theorem echoing_not_mem_poll (s : Session) : echoing ∉ s.poll.trace := by
  have hstops : echoing ∉ (s.endpoint.beginning s.token).1 :=
    echoing_not_mem_stops (s.endpoint.isStop_beginning s.token)
  rcases wait_cases s.context.config.pollTimeout.toValue s.token s.endpoint with
    ⟨f, -, ht, -⟩ | ⟨o, -, ht, -⟩
  · rwa [poll, ht]
  · rw [poll, ht, List.mem_append, not_or]
    exact ⟨hstops, by simp [echoing]⟩

theorem echoing_not_mem_approach (s : Session) (item : Item (List UInt8)) :
    echoing ∉ s.approach item := by
  have hstops := echoing_not_mem_stops (s.poll.token.isStop_strike item .call)
  simp [approach, s.echoing_not_mem_poll, hstops]

theorem echoing_not_mem_report (s : Session) (bytes : List UInt8) : echoing ∉ s.report bytes := by
  simp [report, echoing, Trace.speak, Log.Entry.plain, console]

theorem cancelled_called (s : Session) (item : Item (List UInt8)) :
    (s.called item).token.cancelled =
      (s.token.cancelled || (s.approach item).any Event.isStop) := by
  have hbegin := (s.endpoint.heeds_beginning s.token).cancelled
  have hstrike := (s.poll.token.heeds_strike item .call).cancelled
  have hpoll : s.poll.token.cancelled = (s.token.cancelled || s.poll.trace.any Event.isStop) := by
    rcases wait_cases s.context.config.pollTimeout.toValue s.token s.endpoint with
      ⟨f, -, ht, -⟩ | ⟨o, -, ht, -⟩
    · rw [poll, token_wait, ht]
      exact hbegin
    · rw [poll, token_wait, ht, List.any_append, hbegin]
      simp [Event.isStop]
  rw [called, approach, List.any_append, ← Bool.or_assoc, ← hpoll]
  exact hstrike

theorem not_stop_report (s : Session) (bytes : List UInt8) :
    (s.report bytes).any Event.isStop = false := by
  obtain ⟨rest, he, hr⟩ := s.heeds_report bytes false
  rw [he, List.any_cons, ← Bool.false_or (rest.any _), ← hr.cancelled]
  rfl

/-- A receive shows an echo only behind its report. -/
theorem replied_of_again (h : Receipt s item (.again trace next)) (hm : echoing ∈ trace) :
    ∃ bytes, s.chunk bytes ≠ [] ∧ trace = s.report bytes ++ (s.reply item bytes).trace ∧
      next = s.replied item bytes ∧ (s.reply item bytes).result = .ok () := by
  cases h with
  | retried => simp [echoing] at hm
  | dumped => exact absurd hm (s.echoing_not_mem_report _)
  | echoed hd hc he hr => exact ⟨_, hc, rfl, rfl, hr⟩

theorem replied_of_done (h : Receipt s item (.done ran)) (hm : echoing ∈ ran.trace) :
    ∃ bytes f, s.chunk bytes ≠ [] ∧ (s.reply item bytes).result = .error f ∧
      ran = ⟨s.report bytes ++ (s.reply item bytes).trace, s.replied item bytes, .error f⟩ := by
  cases h with
  | failed => simp [echoing, Trace.speak, Log.Entry.plain] at hm
  | closed => simp [echoing, console] at hm
  | aborted hd hc he hr => exact ⟨_, _, hc, hr, rfl⟩

theorem lingers_reply {bytes : List UInt8} {after : Trace} (hc : (s.called item).chunk bytes ≠ [])
    (hcancelled : (s.called item).token.cancelled = true)
    (htrace : echoing :: after = ((s.called item).reply item bytes).trace)
    (hstate : ran.state = (s.called item).replied item bytes)
    (hresult : ran.result = ((s.called item).reply item bytes).result.map fun _ => true) :
    Lingers s ran after item (s.called item).endpoint.sends (s.called item).token
      ((s.called item).chunk bytes) := by
  have hreply : (s.called item).reply item bytes =
      echo s.context.config.sendTimeout s.endpoint.id item (s.called item).endpoint.sends
        (s.called item).token ((s.called item).chunk bytes) := by
    rw [reply, id_called]
    rfl
  have hleft : (s.called item).endpoint.sends = s.endpoint.sends := by
    simp [called, polled, poll]
  exact ⟨hleft ▸ List.suffix_refl _, hc, hcancelled, by rw [htrace, hreply],
    by rw [hstate, ← hreply]; rfl, by rw [hresult, hreply]⟩

/-- Where the echo of a turn begins. -/
theorem split_reply {bytes : List UInt8} {before after : Trace}
    (h : s.approach item ++ ((s.called item).report bytes ++
      ((s.called item).reply item bytes).trace) = before ++ echoing :: after) :
    before = s.approach item ++ (s.called item).report bytes ∧
      echoing :: after = ((s.called item).reply item bytes).trace := by
  have hfirst : echoing ∉ s.approach item ++ (s.called item).report bytes := by
    simp [echoing_not_mem_approach, echoing_not_mem_report]
  obtain ⟨rest, he, hrest⟩ := exists_trace_echo (s.called item).endpoint.id item
    (s.called item).context.config.sendTimeout (s.called item).endpoint.sends
    (s.called item).token ((s.called item).chunk bytes)
  rw [← List.append_assoc, reply, he] at h
  rw [reply, he]
  obtain ⟨rfl, -, rfl⟩ := (List.append_cons_inj_of_notMem hfirst hrest).1 h
  exact ⟨rfl, rfl⟩

theorem cancelled_of_stop (hc : s.token.cancelled = false) {bytes : List UInt8}
    (hstop : s.token.cancelled = true ∨
      (s.approach item ++ (s.called item).report bytes).any Event.isStop = true) :
    (s.called item).token.cancelled = true := by
  rw [cancelled_called, hc, Bool.false_or]
  simpa [hc, not_stop_report, List.any_append] using hstop

theorem lingers_done (h : s.turn = .done ran) {before after : Trace}
    (ht : ran.trace = before ++ echoing :: after)
    (hstop : s.token.cancelled = true ∨ before.any Event.isStop = true) :
    ∃ item sends token bytes, Lingers s ran after item sends token bytes := by
  have hmem : echoing ∈ ran.trace := by simp [ht]
  cases step_done h with
  | stopped => simp at hmem
  | broken =>
    rcases List.mem_append.1 hmem with hmem | hmem
    · exact absurd hmem s.echoing_not_mem_poll
    · simp [echoing, Trace.speak, Log.Entry.plain] at hmem
  | refused => exact absurd hmem s.echoing_not_mem_poll
  | @done item inner hc hf hr =>
    rcases List.mem_append.1 hmem with hmem | hmem
    · exact absurd hmem (s.echoing_not_mem_approach item)
    · obtain ⟨bytes, f, hchunk, hresult, rfl⟩ := replied_of_done hr hmem
      obtain ⟨rfl, htrace⟩ := split_reply ht
      exact ⟨_, _, _, _, lingers_reply hchunk (cancelled_of_stop hc hstop) htrace rfl
        (by simp [hresult, Except.map])⟩

theorem Lingers.of_again (h : s.turn = .again trace next) {after : Trace} {sends : List Send}
    {token : Token} {bytes : List UInt8} (hl : Lingers next ran after item sends token bytes) :
    Lingers s (ran.after trace) after item sends token bytes := by
  obtain ⟨hleft, hchunk, hcancelled, htrace, hrest, hresult⟩ := hl
  have hframe := frame_again h
  rw [hframe.context.config, hframe.id] at htrace hrest hresult
  exact ⟨hleft.trans (spends_again h).suffix, hchunk, hcancelled, htrace, hrest, hresult⟩

theorem lingers_again (h : s.turn = .again trace next)
    (hover : next.token.cancelled = true → ran = ⟨[], next, .ok true⟩)
    (ih : ∀ before after, ran.trace = before ++ echoing :: after →
      (next.token.cancelled = true ∨ before.any Event.isStop = true) →
      ∃ item sends token bytes, Lingers next ran after item sends token bytes)
    {before after : Trace} (ht : trace ++ ran.trace = before ++ echoing :: after)
    (hstop : s.token.cancelled = true ∨ before.any Event.isStop = true) :
    ∃ item sends token bytes, Lingers s (ran.after trace) after item sends token bytes := by
  -- The echo is in this turn, which is the last one then, or in a later one.
  rcases Trace.split_append ht with ⟨a, ha, rfl⟩ | ⟨b, rfl, hb⟩
  · have hmem : echoing ∈ trace := by simp [ha]
    cases step_again h with
    | idle => exact absurd hmem s.echoing_not_mem_poll
    | @again item inner _ hc hf hr =>
      rcases List.mem_append.1 hmem with hmem | hmem
      · exact absurd hmem (s.echoing_not_mem_approach item)
      · obtain ⟨bytes, hchunk, rfl, rfl, hresult⟩ := replied_of_again hr hmem
        obtain ⟨rfl, htrace⟩ := split_reply ha
        have hcancelled := cancelled_of_stop hc hstop
        have hnext : ((s.called item).replied item bytes).token.cancelled = true := by
          have h := (heeds_echo s.context.config.sendTimeout (s.called item).endpoint.id item
            (s.called item).endpoint.sends (s.called item).token
            ((s.called item).chunk bytes)).cancelled
          rw [hcancelled, Bool.true_or] at h
          exact h
        rw [hover hnext]
        exact ⟨_, _, _, _, lingers_reply hchunk hcancelled (by simpa using htrace) rfl
          (by simp [hresult, Except.map])⟩
  · have hcancelled := (heeds_again h).cancelled
    have hnext : next.token.cancelled = true ∨ b.any Event.isStop = true := by
      rw [hcancelled]
      simpa [or_assoc] using hstop
    obtain ⟨item, sends, token, bytes, hl⟩ := ih b after hb hnext
    exact ⟨item, sends, token, bytes, hl.of_again h⟩

theorem lingers_run (s : Session) : (s.token.cancelled = true → s.run = ⟨[], s, .ok true⟩) ∧
    ∀ before after, s.run.trace = before ++ echoing :: after →
      (s.token.cancelled = true ∨ before.any Event.isStop = true) →
      ∃ item sends token bytes, Lingers s s.run after item sends token bytes := by
  -- That a cancelled session does nothing more is what ends the turn before it.
  refine loop_induction (fun s ran => (s.token.cancelled = true → ran = ⟨[], s, .ok true⟩) ∧
    ∀ before after, ran.trace = before ++ echoing :: after →
      (s.token.cancelled = true ∨ before.any Event.isStop = true) →
      ∃ item sends token bytes, Lingers s ran after item sends token bytes) ?_ ?_ s
  · intro s ran h
    refine ⟨fun hc => ?_, fun before after => lingers_done h⟩
    rw [turn, if_pos hc] at h
    exact (Turn.done.inj h).symm
  · intro s trace next ran h ih
    refine ⟨fun hc => ?_, fun before after => lingers_again h ih.1 ih.2⟩
    rw [turn, if_pos hc] at h
    cases h

theorem run_of_last (h : s.turn = .again trace next) (hc : next.token.cancelled = true) :
    s.run = ⟨trace, next, .ok true⟩ := by
  have hnext : loop turn remaining shrinks_turn next = ⟨[], next, .ok true⟩ :=
    next.lingers_run.1 hc
  rw [run, loop_eq, h]
  simp [hnext, Ran.after]

/-- An echo that begins after a request to stop is the last thing that a session does. It takes its
course as it would have done without that request, so it is over with its first call only if that
call settles the matter. -/
theorem echo_lingers {s : Session} {before after : Trace}
    (hrun : s.run.trace = before ++ echoing :: after) (hstop : before.any Event.isStop = true) :
    ∃ item sends token bytes, Lingers s s.run after item sends token bytes ∧
      (∀ t, (echo s.context.config.sendTimeout s.endpoint.id item sends token bytes).Same
        (echo s.context.config.sendTimeout s.endpoint.id item sends t bytes)) ∧
      (Prompt s.endpoint.id item s.context.config.sendTimeout sends token bytes ↔
        match Limit.ofValue s.context.config.sendTimeout with
        | .error _ => True
        | .ok .expired => False
        | .ok _ => settles sends bytes = true) := by
  obtain ⟨item, sends, token, bytes, hl⟩ := s.lingers_run.2 before after hrun (.inr hstop)
  exact ⟨item, sends, token, bytes, hl, fun t => echo_regardless _ _ _ _ _ t _,
    prompt_iff _ _ _ _ _ _⟩

def farewell : Item (List UInt8) :=
  { Item.delivering [104, 101, 108, 108, 111] with stop? := some .wait }

def hanging : Session where
  token := Token.fresh
  endpoint := ⟨.connection 0, [farewell], [.accept 2, .stall], false⟩
  context := ⟨Config.usual, none, [0, 0, 0, 0, 0, 0, 0, 0], .bool false, .bool true⟩

theorem run_hanging : hanging.run = ⟨(hanging.approach farewell ++
    (hanging.called farewell).report [104, 101, 108, 108, 111]) ++
      echoing :: (.sent (.connection 0) [104, 101] :: failureNote ""),
    (hanging.called farewell).replied farewell [104, 101, 108, 108, 111], .ok true⟩ :=
  run_of_last rfl rfl

theorem echo_lingers_hanging : ∃ item sends token bytes, Lingers hanging hanging.run
    (.sent (.connection 0) [104, 101] :: failureNote "") item sends token bytes := by
  obtain ⟨item, sends, token, bytes, hl, -⟩ :=
    echo_lingers (congrArg Ran.trace run_hanging) (by decide)
  exact ⟨item, sends, token, bytes, hl⟩

/-- A connection that takes a part of a chunk and stays blocked holds up the end of its session
until the send timeout is over. -/
theorem overdue_of_stall : ¬ ∀ (s : Session) (before after : Trace),
    s.context.echo.truthy = true → s.run.trace = before ++ echoing :: after →
    before.any Event.isStop = true →
    ∀ item sends token bytes, Lingers s s.run after item sends token bytes →
      Prompt s.endpoint.id item s.context.config.sendTimeout sends token bytes := by
  intro h
  have hrun := run_hanging
  have hl : Lingers hanging hanging.run (.sent (.connection 0) [104, 101] :: failureNote "")
      farewell [.accept 2, .stall] ⟨true, []⟩ [104, 101, 108, 108, 111] := by
    rw [hrun]
    exact ⟨List.suffix_refl _, by simp, rfl, rfl, rfl, rfl⟩
  have hprompt := (prompt_iff _ _ _ _ _ _).1
    (h hanging _ _ rfl (congrArg Ran.trace hrun) (by decide) _ _ _ _ hl)
  have hlimit : Limit.ofValue hanging.context.config.sendTimeout = .ok .running := by
    decide +kernel
  rw [hlimit] at hprompt
  exact absurd hprompt (by decide)

end Session

end Stream

end SctpProbe
