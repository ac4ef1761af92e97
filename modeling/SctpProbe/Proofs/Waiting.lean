import SctpProbe.Network.Wait
set_option autoImplicit false

namespace SctpProbe.Network

def Event.isStop : Event → Bool
  | .ended _ => true
  | .stopped => true
  | .signalled _ => true
  | _ => false

variable {α : Type}

namespace Token

theorem isStop_strike (t : Token) (i : Item α) (m : Moment) :
    ∀ x ∈ (t.strike i m).1, x.isStop = true := by
  intro x hx
  simp only [strike, stopAt, signalAt, List.mem_append] at hx
  rcases hx with hx | hx
  · split at hx
    · simp only [List.mem_singleton] at hx
      rw [hx]
      rfl
    · simp at hx
  · split at hx
    · split at hx
      · simp only [List.mem_singleton] at hx
        rw [hx]
        rfl
      · simp at hx
    · simp at hx

theorem cancelled_strike_eq (t : Token) (i : Item α) (m : Moment) :
    (t.strike i m).2.cancelled = (t.cancelled || !(t.strike i m).1.isEmpty) := by
  simp only [strike, stopAt, signalAt]
  repeat' split
  all_goals simp [cancel, signal]

theorem strike_of_quiet (t : Token) (i : Item α) (m : Moment) (hs : i.stop? = none)
    (hn : i.signal? = none) : t.strike i m = ([], t) := by
  simp [strike, stopAt, signalAt, hs, hn]

end Token

namespace Endpoint

def beginning (e : Endpoint α) (t : Token) : Trace × Token :=
  match e.script with
  | [] => ([.ended e.id], t.cancel)
  | i :: _ => t.strike i .wait

def advanced (e : Endpoint α) : Endpoint α :=
  match e.script with
  | [] => e
  | i :: rest => { e with script := rest, shut := e.shut || decide (i.poll = .closed) }

def prospect (e : Endpoint α) (timeout : Value) : Except Fault Outcome :=
  match e.script with
  | [] => outcomeAtEnd timeout e.shut
  | i :: _ => outcome timeout e.shut i

@[simp] theorem id_advanced (e : Endpoint α) : e.advanced.id = e.id := by
  unfold advanced
  split <;> rfl

@[simp] theorem script_advanced (e : Endpoint α) : e.advanced.script = e.script.tail := by
  unfold advanced
  split
  · next h => simp [h]
  · next h => simp [h]

@[simp] theorem sends_advanced (e : Endpoint α) : e.advanced.sends = e.sends := by
  unfold advanced
  split <;> rfl

theorem isStop_beginning (e : Endpoint α) (t : Token) :
    ∀ x ∈ (e.beginning t).1, x.isStop = true := by
  unfold beginning
  split
  · intro x hx
    simp only [List.mem_singleton] at hx
    rw [hx]
    rfl
  · exact t.isStop_strike _ .wait

theorem cancelled_beginning (e : Endpoint α) (t : Token) :
    (e.beginning t).2.cancelled = (t.cancelled || !(e.beginning t).1.isEmpty) := by
  unfold beginning
  split
  · simp [Token.cancel]
  · exact t.cancelled_strike_eq _ .wait

end Endpoint

theorem wait_eq (timeout : Value) (t : Token) (e : Endpoint α) :
    wait timeout t e = .ofOutcome (e.beginning t).1 timeout (e.beginning t).2 e.advanced
      e.script.head? (e.prospect timeout) := by
  unfold wait Endpoint.beginning Endpoint.advanced Endpoint.prospect
  cases e.script <;> rfl

@[simp] theorem token_wait (timeout : Value) (t : Token) (e : Endpoint α) :
    (wait timeout t e).token = (e.beginning t).2 := by
  rw [wait_eq, Waited.token_ofOutcome]

@[simp] theorem endpoint_wait (timeout : Value) (t : Token) (e : Endpoint α) :
    (wait timeout t e).endpoint = e.advanced := by
  rw [wait_eq, Waited.endpoint_ofOutcome]

/-- What a wait shows and finds goes by what it was going to report. -/
theorem wait_cases (timeout : Value) (t : Token) (e : Endpoint α) :
    (∃ f, e.prospect timeout = .error f ∧ (wait timeout t e).trace = (e.beginning t).1 ∧
      (wait timeout t e).found = .refused f) ∨
    ∃ o, e.prospect timeout = .ok o ∧
      (wait timeout t e).trace = (e.beginning t).1 ++ [.waited e.id timeout o] ∧
      (wait timeout t e).found = .ofOutcome e.script.head? o := by
  rw [wait_eq]
  cases h : e.prospect timeout with
  | error f => exact .inl ⟨f, rfl, rfl, rfl⟩
  | ok o => exact .inr ⟨o, rfl, by simp [Waited.ofOutcome], rfl⟩

theorem limit_of_prospect {e : Endpoint α} {timeout : Value} {f : Fault}
    (h : e.prospect timeout = .error f) : Limit.ofValue timeout = .error f := by
  have hm : ∀ (g : Limit → Outcome), (Limit.ofValue timeout).map g = .error f →
      Limit.ofValue timeout = .error f := by
    intro g hg
    cases hl : Limit.ofValue timeout with
    | error f' => rw [hl] at hg; simpa [Except.map] using hg
    | ok l => rw [hl] at hg; simp [Except.map] at hg
  unfold Endpoint.prospect at h
  split at h
  · unfold outcomeAtEnd at h
    split at h
    · simp at h
    · exact hm _ h
  · unfold outcome at h
    split at h
    · simp at h
    · exact hm _ h

theorem Found.ofOutcome_ready {item? : Option (Item α)} {o : Outcome} {i : Item α}
    (h : Found.ofOutcome item? o = .ready i) : o = .ready ∧ item? = some i := by
  cases o with
  | ready => cases item? <;> simp_all [Found.ofOutcome]
  | timedOut => simp [Found.ofOutcome] at h
  | interrupted => simp [Found.ofOutcome] at h
  | failed e => simp [Found.ofOutcome] at h

theorem Found.ofOutcome_broken {item? : Option (Item α)} {o : Outcome} {e : SystemError}
    (h : Found.ofOutcome item? o = .broken e) : o = .failed e := by
  cases o with
  | ready => cases item? <;> simp [Found.ofOutcome] at h
  | timedOut => simp [Found.ofOutcome] at h
  | interrupted => simp [Found.ofOutcome] at h
  | failed e' => simpa [Found.ofOutcome] using h

theorem Found.ofOutcome_ne_refused (item? : Option (Item α)) (o : Outcome) (f : Fault) :
    Found.ofOutcome item? o ≠ .refused f := by
  cases o <;> cases item? <;> simp [Found.ofOutcome]

theorem Limit.ofValue_ne_system (v : Value) (e : SystemError) :
    ofValue v ≠ .error (.system e) := by
  unfold ofValue
  split
  · simp
  · split
    · intro h
      simpa using ofNumber_error h
    · simp

theorem wait_of_refused {timeout : Value} {t : Token} {e : Endpoint α} {f : Fault}
    (h : (wait timeout t e).found = .refused f) :
    (wait timeout t e).trace = (e.beginning t).1 ∧ Limit.ofValue timeout = .error f := by
  rcases wait_cases timeout t e with ⟨g, hp, ht, hf⟩ | ⟨o, hp, ht, hf⟩
  · rw [hf] at h
    cases h
    exact ⟨ht, limit_of_prospect hp⟩
  · rw [hf] at h
    exact absurd h (Found.ofOutcome_ne_refused _ _ _)

theorem wait_of_broken {timeout : Value} {t : Token} {e : Endpoint α} {err : SystemError}
    (h : (wait timeout t e).found = .broken err) :
    (wait timeout t e).trace = (e.beginning t).1 ++ [.waited e.id timeout (.failed err)] := by
  rcases wait_cases timeout t e with ⟨g, hp, ht, hf⟩ | ⟨o, hp, ht, hf⟩
  · rw [hf] at h
    simp at h
  · rw [hf] at h
    rw [ht, Found.ofOutcome_broken h]

theorem wait_of_idle {timeout : Value} {t : Token} {e : Endpoint α}
    (h : (wait timeout t e).found = .idle) :
    ∃ o, (wait timeout t e).trace = (e.beginning t).1 ++ [.waited e.id timeout o] ∧
      (o = .timedOut ∨ o = .interrupted) := by
  rcases wait_cases timeout t e with ⟨g, hp, ht, hf⟩ | ⟨o, hp, ht, hf⟩
  · rw [hf] at h
    simp at h
  · refine ⟨o, ht, ?_⟩
    rw [hf] at h
    cases o with
    | timedOut => exact .inl rfl
    | interrupted => exact .inr rfl
    | failed err => simp [Found.ofOutcome] at h
    | ready =>
      have hs : e.script = [] := by
        cases hs : e.script with
        | nil => rfl
        | cons i rest => simp [hs, Found.ofOutcome] at h
      simp only [Endpoint.prospect, hs, outcomeAtEnd] at hp
      split at hp
      · simp at hp
      · cases hl : Limit.ofValue timeout <;> simp [hl, Except.map] at hp

theorem wait_of_ready {timeout : Value} {t : Token} {e : Endpoint α} {i : Item α}
    (h : (wait timeout t e).found = .ready i) :
    (wait timeout t e).trace = (e.beginning t).1 ++ [.waited e.id timeout .ready] ∧
      e.script = i :: e.script.tail ∧ e.prospect timeout = .ok .ready := by
  rcases wait_cases timeout t e with ⟨g, hp, ht, hf⟩ | ⟨o, hp, ht, hf⟩
  · rw [hf] at h
    simp at h
  · rw [hf] at h
    obtain ⟨rfl, hi⟩ := Found.ofOutcome_ready h
    refine ⟨ht, ?_, hp⟩
    cases hs : e.script with
    | nil => simp [hs] at hi
    | cons j rest => simp_all

theorem registration_ne_ready (shut : Bool) (i : Item α) :
    registration shut i ≠ some .ready := by
  unfold registration
  split
  · simp
  · split
    · simp
    · split
      · simp only [Ne, Option.some.injEq]
        split <;> simp
      · simp

theorem ready_again {timeout : Value} {shut : Bool} {i : Item α}
    (h : outcome timeout shut i = .ok .ready) {β : Type} (p : β) :
    outcome timeout (shut || decide (i.poll = .closed)) (Item.delivering p) = .ok .ready := by
  unfold outcome at h
  split at h
  · next o hr =>
    simp only [Except.ok.injEq] at h
    rw [h] at hr
    exact absurd hr (registration_ne_ready shut i)
  · next hr =>
    have hopen : shut = false ∧ i.poll ≠ .closed := by
      unfold registration at hr
      split at hr
      · simp at hr
      · next hc => simpa using hc
    cases hl : Limit.ofValue timeout with
    | error f => simp [hl, Except.map] at h
    | ok limit =>
      have hexp : limit ≠ .expired := by
        rintro rfl
        simp [hl, Except.map, outcomeWithin] at h
      simp [outcome, registration, Item.delivering, hopen.1, hopen.2, hl, Except.map,
        outcomeWithin, hexp]

end SctpProbe.Network
