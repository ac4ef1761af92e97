import SctpProbe.Proofs.Series
set_option autoImplicit false

namespace SctpProbe

open Network

namespace Signal

theorem mem_handled (s : Signal) : s ∈ handled := by
  cases s <;> decide

theorem takeOver_handlers (signals : List Signal) (h : Handlers) (s : Signal) :
    (takeOver signals h).2 s = if s ∈ signals then .server else h s := by
  induction signals generalizing h with
  | nil => rfl
  | cons q rest ih =>
    simp only [takeOver, ih, assign, List.mem_cons]
    by_cases hq : s = q <;> by_cases hr : s ∈ rest <;> simp [hq, hr]

/-- What is noted of signals that differ is who handled them. -/
theorem takeOver_originals {signals : List Signal} (hn : signals.Nodup) (h : Handlers) :
    (takeOver signals h).1 = signals.map fun s => ⟨s, h s⟩ := by
  induction signals generalizing h with
  | nil => rfl
  | cons q rest ih =>
    obtain ⟨hq, hr⟩ := List.nodup_cons.1 hn
    simp only [takeOver, ih hr, List.map_cons]
    refine congrArg _ (List.map_congr_left fun s hs => ?_)
    have hne : s ≠ q := fun he => hq (he ▸ hs)
    simp [assign, hne]

theorem handBack_map (signals : List Signal) (g h : Handlers) (s : Signal) :
    handBack (signals.map fun q => ⟨q, g q⟩) h s = if s ∈ signals then g s else h s := by
  induction signals generalizing h with
  | nil => rfl
  | cons q rest ih =>
    have hstep := ih (assign h ⟨q, g q⟩)
    unfold handBack at hstep ⊢
    rw [List.map_cons, List.foldl_cons, hstep]
    by_cases hq : s = q <;> by_cases hr : s ∈ rest <;> simp [assign, hq, hr]

/-- Whatever was taken over is handled as before once it is handed back. -/
theorem handBack_capture (mainThread : Bool) (h : Handlers) :
    handBack (capture mainThread h).1 (capture mainThread h).2 = h := by
  cases mainThread with
  | false => rfl
  | true =>
    funext s
    change handBack (takeOver handled h).1 (takeOver handled h).2 s = h s
    rw [takeOver_originals (by decide), handBack_map, if_pos s.mem_handled]

theorem capture_handlers (mainThread : Bool) (h : Handlers) :
    (capture mainThread h).2 = if mainThread then fun _ => .server else h := by
  cases mainThread with
  | false => rfl
  | true =>
    funext s
    change (takeOver handled h).2 s = .server
    rw [takeOver_handlers, if_pos s.mem_handled]

end Signal

namespace Network

namespace Token

/-- What an event means for the token. -/
def witness (t : Token) : Event → Token
  | .ended _ => t.cancel
  | .stopped => t.cancel
  | .signalled n => t.signal n
  | _ => t

def witnessed (t : Token) (u : Trace) : Token := u.foldl witness t

theorem witnessed_append (t : Token) (u v : Trace) :
    t.witnessed (u ++ v) = (t.witnessed u).witnessed v :=
  List.foldl_append

theorem witnessed_of_not_stop {u : Trace} (h : ∀ e ∈ u, e.isStop = false) (t : Token) :
    t.witnessed u = t := by
  induction u with
  | nil => rfl
  | cons e rest ih =>
    have he := h e List.mem_cons_self
    have hr := ih fun x hx => h x (List.mem_cons_of_mem e hx)
    have hw : t.witness e = t := by cases e <;> simp_all [witness, Event.isStop]
    rw [witnessed, List.foldl_cons, hw]
    exact hr

end Token

namespace Trace

def signals (t : Trace) : List Int :=
  t.filterMap fun
    | .signalled n => some n
    | _ => none

theorem signals_append (t u : Trace) : (t ++ u).signals = t.signals ++ u.signals :=
  List.filterMap_append

/-- Every signal is shown right before the wait or the call that it came with. -/
def Prompt (t : Trace) : Prop := ∀ before n after, t = before ++ .signalled n :: after →
  ∃ e rest, after = e :: rest ∧ e.isTraffic = true

variable {t u : Trace}

theorem prompt_of_no_signal (h : ∀ n, .signalled n ∉ t) : Prompt t := by
  rintro before n after rfl
  exact absurd (by simp) (h n)

theorem Prompt.append (h : t.Prompt) (k : u.Prompt) : Prompt (t ++ u) := by
  intro before n after he
  rcases split_append he with ⟨a, rfl, rfl⟩ | ⟨b, rfl, rfl⟩
  · obtain ⟨e, rest, rfl, ht⟩ := h before n a rfl
    exact ⟨e, rest ++ u, rfl, ht⟩
  · exact k b n after rfl

end Trace

theorem signals_witnessed (t : Token) (u : Trace) :
    (t.witnessed u).signals = t.signals ++ u.signals := by
  induction u generalizing t with
  | nil => simp [Token.witnessed, Trace.signals]
  | cons e rest ih =>
    have hr := ih (t.witness e)
    rw [Token.witnessed, List.foldl_cons]
    change ((t.witness e).witnessed rest).signals = _
    rw [hr]
    cases e <;> simp [Token.witness, Token.cancel, Token.signal, Trace.signals]

section

variable {α : Type}

theorem Token.witnessed_strike (t : Token) (i : Item α) (m : Moment) :
    t.witnessed (t.strike i m).1 = (t.strike i m).2 := by
  simp only [strike, stopAt, signalAt]
  repeat' split
  all_goals rfl

theorem Endpoint.witnessed_beginning (e : Endpoint α) (t : Token) :
    t.witnessed (e.beginning t).1 = (e.beginning t).2 := by
  unfold beginning
  split
  · rfl
  · exact t.witnessed_strike _ .wait

theorem Trace.prompt_signal (n : Int) {e : Event} (he : e.isTraffic = true) :
    Prompt [.signalled n, e] := by
  intro before m after h
  cases before with
  | nil =>
    simp only [List.nil_append, List.cons.injEq] at h
    exact ⟨e, [], h.2.symm, he⟩
  | cons x rest =>
    have hm : .signalled m ∈ [e] := by
      simp only [List.cons_append, List.cons.injEq] at h
      rw [h.2]
      simp
    rw [List.mem_singleton] at hm
    subst hm
    simp [Event.isTraffic] at he

theorem Token.prompt_strike (t : Token) (i : Item α) (m : Moment) {e : Event}
    (he : e.isTraffic = true) : Trace.Prompt ((t.strike i m).1 ++ [e]) := by
  have hone : Trace.Prompt [e] := Trace.prompt_of_no_signal fun n hn => by
    rw [List.mem_singleton] at hn
    subst hn
    simp [Event.isTraffic] at he
  have hstopped : Trace.Prompt [.stopped] := Trace.prompt_of_no_signal (by simp)
  simp only [strike, stopAt, signalAt]
  repeat' split
  · exact hstopped.append (Trace.prompt_signal _ he)
  · exact hstopped.append hone
  · exact hstopped.append hone
  · exact Trace.prompt_signal _ he
  · exact hone
  · exact hone

theorem Endpoint.prompt_beginning (e : Endpoint α) (t : Token) {x : Event}
    (hx : x.isTraffic = true) : Trace.Prompt ((e.beginning t).1 ++ [x]) := by
  unfold beginning
  split
  · refine Trace.prompt_of_no_signal fun n hn => ?_
    simp only [List.cons_append, List.nil_append, List.mem_cons, List.not_mem_nil, or_false,
      reduceCtorEq, false_or] at hn
    subst hn
    simp [Event.isTraffic] at hx
  · exact t.prompt_strike _ .wait hx

end

/-- What has been shown tells what the token knows. -/
theorem law_witnessed (timeout : Value) :
    Law timeout (fun _ => True) fun a u b => b = a.witnessed u where
  system _ := trivial
  nothing _ := rfl
  join ha hb := by rw [Token.witnessed_append, ← ha, hb]
  remark t e he := by
    refine (Token.witnessed_of_not_stop ?_ t).symm
    cases e <;> simp_all [Event.isRemark, Event.isStop]
  wait t e _ := by
    have hb := e.witnessed_beginning t
    rw [token_wait]
    rcases wait_cases timeout t e with ⟨f, -, ht, -⟩ | ⟨o, -, ht, -⟩
    · rw [ht, hb]
    · rw [ht, Token.witnessed_append, hb]
      rfl
  call t i m e he := by
    rw [Token.witnessed_append, t.witnessed_strike]
    cases e <;> simp_all [Event.isTraffic, Token.witnessed, Token.witness]

/-- Signals are shown promptly unless a loop ends with a wait that is refused. -/
theorem law_prompt (timeout : Value) :
    Law timeout (fun f => Limit.ofValue timeout ≠ .error f) fun _ u _ => u.Prompt where
  system e := Limit.ofValue_ne_system timeout e
  nothing _ := Trace.prompt_of_no_signal (by simp)
  join h k := h.append k
  remark _ e he := Trace.prompt_of_no_signal fun n hn => by
    rw [List.mem_singleton] at hn
    subst hn
    simp [Event.isRemark] at he
  wait t e hf := by
    rcases wait_cases timeout t e with ⟨f, hp, -, hr⟩ | ⟨o, -, ht, -⟩
    · exact absurd (limit_of_prospect hp) (hf f hr)
    · rw [ht]
      exact e.prompt_beginning t rfl
  call t i m _ he := t.prompt_strike i m he

def Event.isOfficial : Event → Bool
  | .log e => e.speaker == .server
  | _ => false

theorem Event.not_official_of_isStop {e : Event} (h : e.isStop = true) : e.isOfficial = false := by
  cases e <;> simp_all [isStop, isOfficial]

theorem Event.not_official_of_isTraffic {e : Event} (h : e.isTraffic = true) :
    e.isOfficial = false := by
  cases e <;> simp_all [isTraffic, isOfficial]

/-- The server itself says nothing as long as its loops run. -/
theorem law_unofficial (timeout : Value) :
    Law timeout (fun _ => True) fun _ u _ => ∀ e ∈ u, e.isOfficial = false where
  system _ := trivial
  nothing _ := by simp
  join h k := List.forall_mem_append.2 ⟨h, k⟩
  remark _ e he := by
    rw [List.forall_mem_singleton]
    cases e <;> simp_all [Event.isRemark, Event.isOfficial]
  wait t e _ := by
    have hb : ∀ x ∈ (e.beginning t).1, x.isOfficial = false := fun x hx =>
      Event.not_official_of_isStop (e.isStop_beginning t x hx)
    rcases wait_cases timeout t e with ⟨f, -, ht, -⟩ | ⟨o, -, ht, -⟩
    · rwa [ht]
    · rw [ht]
      exact List.forall_mem_append.2 ⟨hb, by simp [Event.isOfficial]⟩
  call t i m e he := by
    refine List.forall_mem_append.2 ⟨fun x hx => ?_, ?_⟩
    · exact Event.not_official_of_isStop (t.isStop_strike i m x hx)
    · rw [List.forall_mem_singleton]
      exact Event.not_official_of_isTraffic he

def Trace.Mute (t : Trace) : Prop := ∀ e ∈ t, e.isStop = true ∨ e.isTraffic = true

section

variable {α : Type} {timeout : Value}

theorem mute_wait (t : Token) (e : Endpoint α) : (wait timeout t e).trace.Mute := by
  have hb : ∀ x ∈ (e.beginning t).1, x.isStop = true ∨ x.isTraffic = true := fun x hx =>
    .inl (e.isStop_beginning t x hx)
  rcases wait_cases timeout t e with ⟨f, -, ht, -⟩ | ⟨o, -, ht, -⟩
  · rwa [ht]
  · rw [ht]
    exact List.forall_mem_append.2 ⟨hb, by simp [Event.isTraffic]⟩

theorem found_ne_ready {f : Fault} (h : Limit.ofValue timeout = .error f) (t : Token)
    (e : Endpoint α) (i : Item α) : (wait timeout t e).found ≠ .ready i := by
  intro hr
  obtain ⟨-, hs, hp⟩ := wait_of_ready hr
  rw [Endpoint.prospect, hs] at hp
  simp only [outcome, h, Except.map] at hp
  split at hp
  · next o ho =>
    rw [Except.ok.injEq] at hp
    exact registration_ne_ready _ _ (hp ▸ ho)
  · simp at hp

end

end Network

namespace Stream.Listener

theorem mute_accept (s : Listener) {f : Fault} :
    Limit.ofValue s.context.config.pollTimeout.toValue = .error f →
      s.accept.trace.Mute ∧ ∀ a, s.accept.result ≠ .ok (some a) := by
  refine loop_induction (fun s ran =>
    Limit.ofValue s.context.config.pollTimeout.toValue = .error f →
      ran.trace.Mute ∧ ∀ a, ran.result ≠ .ok (some a)) ?_ ?_ s
  · intro s ran ht h
    have hmute : s.poll.trace.Mute := mute_wait _ _
    cases step_done ht with
    | stopped => exact ⟨by simp [Trace.Mute], by simp⟩
    | broken => exact ⟨hmute, by simp⟩
    | refused => exact ⟨hmute, by simp⟩
    | done _ hf => exact absurd hf (found_ne_ready h _ _ _)
  · intro s trace next ran ht ih h
    have hq := quiet_again ht
    cases step_again ht with
    | idle =>
      obtain ⟨hrest, hresult⟩ := ih h
      exact ⟨List.forall_mem_append.2 ⟨mute_wait _ _, hrest⟩, hresult⟩
    | again _ hf => exact absurd hf (found_ne_ready h _ _ _)

theorem mute_service (s : Listener) {f g : Fault} :
    Limit.ofValue s.context.config.pollTimeout.toValue = .error f →
      s.service.result = .error g → s.service.trace.Mute := by
  refine service_induction (fun s ran =>
    Limit.ofValue s.context.config.pollTimeout.toValue = .error f →
      ran.result = .error g → ran.trace.Mute) ?_ ?_ ?_ s
  · intro s _ _ hr
    simp at hr
  · intro s _ _ h hr
    obtain ⟨hmute, hnone⟩ := s.mute_accept h
    have hround := s.rounding
    generalize s.runOnce = ran at hround hr ⊢
    cases hround with
    | stopped => simp at hr
    | failed => simp at hr
    | faulted => exact hmute
    | unshown ha => exact absurd ha (hnone _)
    | served ha => exact absurd ha (hnone _)
  · intro s ran _ hok ih h hr
    obtain ⟨hmute, hnone⟩ := s.mute_accept h
    have hround := s.rounding
    have hl := lasting_round hround
    have hrest := ih (by rw [hl.context.config, h]) hr
    generalize s.runOnce = first at hround hok hrest ⊢
    cases hround with
    | stopped => exact List.forall_mem_append.2 ⟨hmute, hrest⟩
    | failed => simp at hok
    | faulted => simp at hok
    | unshown => simp at hok
    | served ha => exact absurd ha (hnone _)

end Stream.Listener

namespace Messaging.Mailbox

theorem mute_runOnce (s : Mailbox) {f g : Fault} :
    Limit.ofValue s.context.config.pollTimeout.toValue = .error f →
      s.runOnce.result = .error g → s.runOnce.trace.Mute := by
  refine loop_induction (fun s ran =>
    Limit.ofValue s.context.config.pollTimeout.toValue = .error f →
      ran.result = .error g → ran.trace.Mute) ?_ ?_ s
  · intro s ran ht h hr
    cases step_done ht with
    | stopped => simp at hr
    | broken => simp at hr
    | refused => exact mute_wait _ _
    | done _ hf => exact absurd hf (found_ne_ready h _ _ _)
  · intro s trace next ran ht ih h hr
    cases step_again ht with
    | idle => exact List.forall_mem_append.2 ⟨mute_wait _ _, ih h hr⟩
    | again _ hf => exact absurd hf (found_ne_ready h _ _ _)

theorem mute_service (s : Mailbox) {f g : Fault}
    (h : Limit.ofValue s.context.config.pollTimeout.toValue = .error f)
    (hr : s.service.result = .error g) : s.service.trace.Mute := by
  cases hc : s.token.cancelled with
  | true =>
    rw [s.service_of_cancelled hc] at hr
    simp at hr
  | false =>
    rw [s.service_eq hc] at hr ⊢
    exact s.mute_runOnce h hr

end Messaging.Mailbox

namespace Network.Trace

/-- Nothing is said between a signal and the wait or the call that it came with, or, if that was not
to be, the event `last`. -/
def Discreet (last : Event) (t : Trace) : Prop := ∀ before n after,
  t = before ++ .signalled n :: after → ∃ stops e rest, after = stops ++ e :: rest ∧
    (∀ x ∈ stops, x.isStop = true) ∧ (e.isTraffic = true ∨ e = last)

variable {last : Event} {t u : Trace}

theorem discreet_of_no_signal (h : ∀ n, .signalled n ∉ t) : t.Discreet last := by
  rintro before n after rfl
  exact absurd (by simp) (h n)

theorem Discreet.prepend (h : u.Discreet last) (ht : ∀ n, .signalled n ∉ t) :
    Discreet last (t ++ u) := by
  intro before n after he
  rcases split_append he with ⟨a, rfl, -⟩ | ⟨b, rfl, rfl⟩
  · exact absurd (by simp) (ht n)
  · exact h b n after rfl

theorem Prompt.discreet (h : t.Prompt) : t.Discreet last := by
  intro before n after ht
  obtain ⟨e, rest, rfl, he⟩ := h before n after ht
  exact ⟨[], e, rest, rfl, by simp, .inl he⟩

theorem Mute.next (h : t.Mute) (last : Event) (u : Trace) : ∃ stops e rest,
    t ++ last :: u = stops ++ e :: rest ∧ (∀ x ∈ stops, x.isStop = true) ∧
      (e.isTraffic = true ∨ e = last) := by
  induction t with
  | nil => exact ⟨[], last, u, rfl, by simp, .inr rfl⟩
  | cons e rest ih =>
    rcases h e List.mem_cons_self with he | he
    · obtain ⟨stops, x, later, hr, hs, hx⟩ := ih fun y hy => h y (List.mem_cons_of_mem e hy)
      refine ⟨e :: stops, x, later, by rw [List.cons_append, hr]; rfl, ?_, hx⟩
      exact List.forall_mem_cons.2 ⟨he, hs⟩
    · exact ⟨[], e, rest ++ last :: u, rfl, by simp, .inl he⟩

theorem Mute.discreet (h : t.Mute) (hu : ∀ n, .signalled n ∉ last :: u) :
    Discreet last (t ++ last :: u) := by
  intro before n after ht
  rcases split_append ht with ⟨a, rfl, rfl⟩ | ⟨b, rfl, hb⟩
  · exact Mute.next (fun x hx => h x (by simp [hx])) last u
  · exact absurd (hb ▸ by simp) (hu n)

end Network.Trace

namespace Server

def shutdownNotice : Event := .log (.plain .info .server "Shutting down server...")

def tellsSignal : Event → Bool
  | .log e => e.speaker == .server && "Received ".toList.isPrefixOf e.message.toList
  | _ => false

theorem not_tellsSignal {e : Event} (h : e.isOfficial = false) : tellsSignal e = false := by
  cases e <;> simp_all [tellsSignal, Event.isOfficial]

section

variable {s : Server} {socket : ServerSocket} {c : Context}

theorem discreet_mainLoop (hc : Context.ofConfig s.config = .ok c) {last : Trace}
    (hl : ∀ n, .signalled n ∉ shutdownNotice :: last) :
    Trace.Discreet shutdownNotice ((s.mainLoop socket c).trace ++ shutdownNotice :: last) := by
  have hlimit := Limit.ofValue_toValue s.config.pollTimeout
  have hconfig := config_prepared hc socket
  have hmute {f : Fault} (hf : Limit.ofValue s.config.pollTimeout.toValue = .error f)
      (hr : (s.mainLoop socket c).result = .error f) : (s.mainLoop socket c).trace.Mute := by
    rw [← hconfig] at hf
    unfold mainLoop serve at hr ⊢
    split at hr
    · exact Stream.Listener.mute_service _ hf hr
    · exact Messaging.Mailbox.mute_service _ hf hr
  by_cases hr : ∃ f, Limit.ofValue s.config.pollTimeout.toValue = .error f ∧
      (s.mainLoop socket c).result = .error f
  · obtain ⟨f, hf, hr⟩ := hr
    exact (hmute hf hr).discreet hl
  · have hprompt := law_mainLoop (law_prompt _) hc socket fun f hf hp => hr ⟨f, hp, hf⟩
    exact (hprompt.append (Trace.prompt_of_no_signal hl)).discreet

end

theorem token_run (s : Server) (around : Surroundings) (socket : ServerSocket) :
    (s.run around socket).state.token = s.token.witnessed (s.run around socket).trace := by
  have hstill {t : Trace} (h : t.Still) (a : Token) : a.witnessed t = a :=
    Token.witnessed_of_not_stop h.not_stop a
  rcases s.still_or_served around socket with ⟨h, htoken⟩ | ⟨c, hc, hserved⟩
  · rw [htoken, hstill h]
  · have hm := law_mainLoop (law_witnessed s.config.pollTimeout.toValue) hc socket
      fun _ _ => trivial
    rw [hserved]
    simp only [Token.witnessed_append, hstill (s.still_preface around socket c), ← hm,
      hstill (still_shutDown _), hstill (aside_farewell _).still]
    rfl

theorem signals_followed (s : Server) (deeds : List Deed) :
    (s.followed deeds).token.signals = s.token.signals ++ (s.chronicle deeds).signals := by
  induction deeds generalizing s with
  | nil => simp [followed, chronicle, stages, Trace.signals]
  | cons d rest ih =>
    cases d with
    | stop => exact ih s.stop
    | run around socket =>
      rw [followed, ih, token_run, signals_witnessed, chronicle_run, Trace.signals_append,
        List.append_assoc]

theorem not_signalled {t : Trace} (h : t.Still) (n : Int) : .signalled n ∉ t := by
  intro hm
  have h0 := h.not_stop _ hm
  simp [Event.isStop] at h0

theorem shape_of_served (s : Server) (around : Surroundings) (socket : ServerSocket) (c : Context) :
    ∃ d : Context, s.preface around socket c ++ (s.mainLoop socket c).trace ++
        (s.mainLoop socket c).state.shutDown.1 ++ farewell (s.mainLoop socket c).result =
      s.preface around socket c ++ ((s.mainLoop socket c).trace ++ shutdownNotice ::
        ((s.mainLoop socket c).state.token.signals.flatMap signalReport ++
          .closed s.socketId :: farewell (s.mainLoop socket c).result)) ∧
      (s.mainLoop socket c).state.shutDown.2 =
        { (s.mainLoop socket c).state with context? := some d } := by
  obtain ⟨d, hdown⟩ := s.shutDown_mainLoop socket c
  refine ⟨{ d with buffer := [] }, ?_, by rw [hdown]⟩
  rw [hdown]
  simp [shutdownNotice, Trace.speak]

theorem discreet_run (s : Server) (around : Surroundings) (socket : ServerSocket) :
    (s.run around socket).trace.Discreet shutdownNotice := by
  rcases s.still_or_served around socket with ⟨h, -⟩ | ⟨c, hc, hrun⟩
  · exact Trace.discreet_of_no_signal (not_signalled h)
  · obtain ⟨d, htrace, -⟩ := s.shape_of_served around socket c
    rw [hrun, htrace]
    refine (discreet_mainLoop hc ?_).prepend (not_signalled (s.still_preface around socket c))
    intro n hn
    simp only [List.mem_cons, List.mem_append, shutdownNotice, reduceCtorEq, false_or] at hn
    rcases hn with hn | hn
    · exact not_signalled (aside_signals _).still n hn
    · exact not_signalled (aside_farewell _).still n hn

theorem tells_signals (ns : List Int) :
    List.filter tellsSignal (ns.flatMap signalReport) = ns.flatMap signalReport := by
  refine List.filter_eq_self.2 fun e he => ?_
  obtain ⟨n, -, hn⟩ := List.mem_flatMap.1 he
  simp only [signalReport, Trace.speak, List.mem_append, List.mem_singleton] at hn
  rcases hn with rfl | hn
  · simp [tellsSignal, Log.Entry.plain]
  · split at hn
    · rw [List.mem_singleton] at hn
      subst hn
      decide
    · simp at hn

theorem tells_unofficial {t : Trace} (h : ∀ e ∈ t, e.isOfficial = false) :
    t.filter tellsSignal = [] :=
  List.filter_eq_nil_iff.2 fun e he => by simp [not_tellsSignal (h e he)]

theorem tells_preface (s : Server) (around : Surroundings) (socket : ServerSocket) (c : Context) :
    (s.preface around socket c).filter tellsSignal = [] := by
  have hopening : s.opening.filter tellsSignal = [] := by
    simp [opening, Trace.speak, tellsSignal, Log.Entry.plain]
  have hsetup : (s.setup around socket).1.filter tellsSignal = [] := by
    refine tells_unofficial fun e he => ?_
    have h : e.ofSetup = true := ofSetup_setUp _ _ _ _ _ e he
    cases e <;> simp_all [Event.ofSetup, Event.isOfficial]
  have hprepared : (s.prepared socket c).1.filter tellsSignal = [] := by
    refine tells_unofficial ?_
    unfold prepared prepare
    split
    · simp
    · unfold Messaging.subscribe
      split
      · simp only
        split <;> simp [Messaging.subscription, Trace.speak, Event.isOfficial, Log.Entry.plain]
      · simp
  have hallocated (n : Nat) : (Trace.speak .debug .server ("Allocated " ++ toString n ++
      " bytes for recv buffer")).filter tellsSignal = [] := by
    simp [Trace.speak, tellsSignal, Log.Entry.plain]
  have hannounced : (announce s.config.mode around socket).1.filter tellsSignal = [] := by
    unfold announce
    repeat' split
    all_goals simp [tellsSignal, announcement]
  simp only [preface, List.filter_append, hopening, hsetup, hprepared, hallocated, hannounced,
    List.append_nil]

/-- What a run shows as it shuts down: the signals that came, then that its socket is closed. -/
structure Reported (s : Server) (ran : Ran Server Ending) (told : List Int) : Prop where
  only : ran.trace.filter tellsSignal = told.flatMap signalReport
  order : ∃ main, ran.trace = main ++ shutdownNotice :: (told.flatMap signalReport ++
    .closed s.socketId :: if ran.result.isOk then
      Trace.speak .info .server "Server shutdown complete!" else []) ∧
    main.closings s.socketId = 0

theorem reported_run {s : Server} {around : Surroundings} {socket : ServerSocket}
    (hstart : starts s.config around socket = true) :
    Reported s (s.run around socket) (s.run around socket).state.token.signals := by
  obtain ⟨c, hc, hallow, -, hrun⟩ := run_of_starts hstart
  rw [hrun]
  obtain ⟨d, htrace, hstate⟩ := s.shape_of_served around socket c
  have htells : ((s.mainLoop socket c).trace).filter tellsSignal = [] :=
    tells_unofficial (law_mainLoop (law_unofficial _) hc socket fun _ _ => trivial)
  have hfarewell : farewell (s.mainLoop socket c).result =
      if ((s.mainLoop socket c).result.map status).isOk then
        Trace.speak .info .server "Server shutdown complete!" else [] := by
    cases (s.mainLoop socket c).result <;> rfl
  have hlast : (farewell (s.mainLoop socket c).result).filter tellsSignal = [] := by
    unfold farewell
    split
    · decide
    · rfl
  refine ⟨?_, s.preface around socket c ++ (s.mainLoop socket c).trace, ?_, ?_⟩
  · have hnotice : tellsSignal shutdownNotice = false := by decide
    have hclosed : tellsSignal (.closed s.socketId) = false := rfl
    rw [htrace, hstate]
    simp [tells_preface, htells, hnotice, hclosed, hlast, tells_signals]
  · rw [htrace, hstate, hfarewell, List.append_assoc]
  · have hserved := (s.up socket c).served s.socketId socket (s.prepared socket c).2
    rw [Trace.closings_append, s.closings_preface around socket c hallow, Nat.zero_add]
    exact hserved.closings s.runs

/-- How a run deals with signals after those that came in earlier runs. -/
structure Answered (s : Server) (around : Surroundings) (handlers : Signal.Handlers)
    (socket : ServerSocket) (earlier : List Int) : Prop where
  during : (s.runHandled around handlers socket).during? =
    if (Context.ofConfig s.config).isOk then
      some (if around.mainThread then fun _ => .server else handlers) else none
  later : (s.runHandled around handlers socket).later = handlers
  remembered : s.token.signals = earlier ∧
    (s.run around socket).state.token = s.token.witnessed (s.run around socket).trace
  discreet : (s.run around socket).trace.Discreet shutdownNotice
  reported : starts s.config around socket = true →
    Reported s (s.run around socket) (earlier ++ (s.run around socket).trace.signals)

def struck (signal : Signal) : ServerSocket :=
  { ServerSocket.silent with
    script := [⟨.timedOut, none, none, some (signal.number, .wait), none⟩] }

end Server

end SctpProbe
