import SctpProbe.Proofs.Waiting
set_option autoImplicit false

/-!
A watch on traces. Every call that takes something in has to follow a wait that has found its own
socket ready, and once somebody has asked to stop, nothing may begin any more: the wait or the call
in progress still comes to its end, and after that there are no others (`aftermath_of_through`).
-/

namespace SctpProbe.Network

inductive Role
  | stop
  | wait (socket : SocketId) (ready : Bool)
  | call (socket : SocketId)
  | note
  | other
  deriving DecidableEq, Repr

def Event.role : Event → Role
  | .ended _ => .stop
  | .stopped => .stop
  | .signalled _ => .stop
  | .waited s _ o => .wait s (o == .ready)
  | .accepted s _ _ => .call s
  | .acceptFailed s _ => .call s
  | .received s _ _ => .call s
  | .receiveFailed s _ => .call s
  | .receivedMessage s _ _ _ _ => .call s
  | .receiveMessageFailed s _ => .call s
  | .log _ => .note
  | _ => .other

theorem Event.role_eq_stop {e : Event} : e.role = .stop ↔ e.isStop = true := by
  cases e <;> simp [role, isStop]

theorem Event.not_stop_of_role {e : Event} (h : e.role ≠ .stop) : e.isStop = false :=
  Bool.eq_false_iff.2 fun hs => h (role_eq_stop.2 hs)

namespace Role

def calm : Role → Bool
  | .wait _ _ => false
  | .call _ => false
  | _ => true

def gap : Role → Bool
  | .stop => true
  | .note => true
  | _ => false

end Role

namespace Trace

def Calm (t : Trace) : Prop := ∀ e ∈ t, e.role.calm = true

def Gap (t : Trace) : Prop := ∀ e ∈ t, e.role.gap = true

theorem calm_nil : Calm [] := by simp [Calm]

theorem calm_append {t u : Trace} : Calm (t ++ u) ↔ Calm t ∧ Calm u := by
  simp [Calm, or_imp, forall_and]

theorem calm_cons {e : Event} {t : Trace} : Calm (e :: t) ↔ e.role.calm = true ∧ Calm t := by
  simp [Calm]

theorem calm_speak (level : Log.Level) (speaker : Log.Speaker) (message : String) :
    Calm (speak level speaker message) := by
  simp [Calm, speak, Event.role, Role.calm]

theorem calm_console (text : String) : Calm (console text) := by
  intro e he
  obtain ⟨l, -, rfl⟩ := List.mem_map.1 he
  rfl

theorem calm_stops {t : Trace} (h : ∀ e ∈ t, e.isStop = true) : Calm t := by
  intro e he
  simp [Event.role_eq_stop.2 (h e he), Role.calm]

theorem gap_cons {e : Event} {t : Trace} : Gap (e :: t) ↔ e.role.gap = true ∧ Gap t := by
  simp [Gap]

theorem Gap.calm {t : Trace} (h : Gap t) : Calm t := by
  intro e he
  have := h e he
  cases hr : e.role <;> simp_all [Role.gap, Role.calm]

/-- The last wait has found a socket ready, and its call has not come yet. -/
def Asked (s : SocketId) (t : Trace) : Prop :=
  ∃ before e gap, t = before ++ e :: gap ∧ e.role = .wait s true ∧ Gap gap

/-- The call that is due on a socket, after a gap and with nothing of importance behind it, or a gap
without it. -/
def Due (s : SocketId) (t : Trace) : Prop :=
  t.Gap ∨ ∃ gap e rest, t = gap ++ e :: rest ∧ Gap gap ∧ e.role = .call s ∧ Calm rest

theorem Due.cons {s : SocketId} {e : Event} {t : Trace} (he : e.role.gap = true) (h : Due s t) :
    Due s (e :: t) := by
  rcases h with h | ⟨gap, e', rest, rfl, hg, he', hr⟩
  · exact .inl (gap_cons.2 ⟨he, h⟩)
  · exact .inr ⟨e :: gap, e', rest, rfl, gap_cons.2 ⟨he, hg⟩, he', hr⟩

/-- What can follow a request to stop: nothing of importance, the end of a wait in progress, the
call of a wait that is over, or the end of a wait and its call. -/
inductive Aftermath (before : Trace) : Trace → Prop
  | calm {rest : Trace} (hr : Calm rest) : Aftermath before rest
  | waited {stops rest : Trace} {e : Event} {s : SocketId} {ready : Bool}
      (ha : ∀ q, ¬ Asked q before)
    (hs : ∀ x ∈ stops, x.isStop = true) (he : e.role = .wait s ready) (hr : Calm rest) :
    Aftermath before (stops ++ e :: rest)
  | called {gap rest : Trace} {e : Event} {s : SocketId} (ha : Asked s before) (hg : Gap gap)
    (he : e.role = .call s) (hr : Calm rest) : Aftermath before (gap ++ e :: rest)
  | waitedAndCalled {stops gap rest : Trace} {w e : Event} {s : SocketId}
      (ha : ∀ q, ¬ Asked q before)
    (hs : ∀ x ∈ stops, x.isStop = true) (hw : w.role = .wait s true) (hg : Gap gap)
    (he : e.role = .call s) (hr : Calm rest) : Aftermath before (stops ++ w :: (gap ++ e :: rest))

end Trace

/-- What has been seen of a trace: nobody has asked to stop, and perhaps a call is due on a socket;
or somebody has, the wait or the call in progress still to come; or nothing is to come any more. -/
inductive Watch
  | awake
  | ready (socket : SocketId)
  | stopping
  | calling (socket : SocketId)
  | winding
  deriving DecidableEq, Repr

namespace Watch

def next (w : Watch) (e : Event) : Option Watch :=
  match w, e.role with
  | .awake, .stop => some .stopping
  | .awake, .wait s true => some (.ready s)
  | .awake, .call _ => none
  | .awake, _ => some .awake
  | .ready s, .stop => some (.calling s)
  | .ready s, .note => some (.ready s)
  | .ready s, .call q => if q = s then some .awake else none
  | .ready _, _ => none
  | .stopping, .stop => some .stopping
  | .stopping, .wait s true => some (.calling s)
  | .stopping, .call _ => none
  | .stopping, _ => some .winding
  | .calling s, .stop => some (.calling s)
  | .calling s, .note => some (.calling s)
  | .calling s, .call q => if q = s then some .winding else none
  | .calling _, _ => none
  | .winding, .wait _ _ => none
  | .winding, .call _ => none
  | .winding, _ => some .winding

def through (w : Watch) (t : Trace) : Option Watch := t.foldlM next w

@[simp] theorem through_nil (w : Watch) : w.through [] = some w := rfl

theorem through_cons (w : Watch) (e : Event) (t : Trace) :
    w.through (e :: t) = (w.next e).bind fun v => v.through t := rfl

theorem through_append (w : Watch) (t u : Trace) :
    w.through (t ++ u) = (w.through t).bind fun v => v.through u := by
  unfold through
  rw [List.foldlM_append]
  rfl

theorem calm_of_through {t : Trace} {w : Watch} (h : winding.through t = some w) : t.Calm := by
  induction t with
  | nil => simp [Trace.Calm]
  | cons e rest ih =>
    rw [through_cons] at h
    rw [Trace.calm_cons]
    cases hr : e.role <;> simp_all [next, Role.calm]

theorem due_of_through {s : SocketId} {t : Trace} {w : Watch} (h : (calling s).through t = some w) :
    t.Due s := by
  induction t with
  | nil => exact .inl (by simp [Trace.Gap])
  | cons e rest ih =>
    rw [through_cons] at h
    cases hr : e.role with
    | stop =>
      simp only [next, hr] at h
      exact (ih h).cons (by simp [hr, Role.gap])
    | note =>
      simp only [next, hr] at h
      exact (ih h).cons (by simp [hr, Role.gap])
    | wait q b => simp [next, hr] at h
    | other => simp [next, hr] at h
    | call q =>
      by_cases hq : q = s
      · subst hq
        simp only [next, hr, if_true] at h
        exact .inr ⟨[], e, rest, rfl, by simp [Trace.Gap], hr, calm_of_through h⟩
      · simp [next, hr, hq] at h

theorem aftermath_of_stopping {before t : Trace} {w : Watch} (ha : ∀ q, ¬ before.Asked q)
    (h : stopping.through t = some w) : Trace.Aftermath before t := by
  suffices hs : ∀ stops : Trace, (∀ x ∈ stops, x.isStop = true) →
    Trace.Aftermath before (stops ++ t) from
    hs [] (by simp)
  have hcalm : ∀ stops : Trace, (∀ x ∈ stops, x.isStop = true) → stops.Calm := by
    intro stops hs e he
    simp [Event.role_eq_stop.2 (hs e he), Role.calm]
  induction t with
  | nil =>
    intro stops hs
    rw [List.append_nil]
    exact .calm (hcalm stops hs)
  | cons e rest ih =>
    intro stops hs
    rw [through_cons] at h
    have hend : e.role.calm = true → winding.through rest = some w →
        Trace.Aftermath before (stops ++ e :: rest) := fun hc hw =>
      .calm (Trace.calm_append.2 ⟨hcalm stops hs, Trace.calm_cons.2 ⟨hc, calm_of_through hw⟩⟩)
    cases hr : e.role with
    | stop =>
      simp only [next, hr] at h
      have hi := ih h (stops ++ [e]) (by
        intro x hx
        rcases List.mem_append.1 hx with hx | hx
        · exact hs x hx
        · rw [List.mem_singleton] at hx
          rw [hx]
          exact Event.role_eq_stop.1 hr)
      simpa using hi
    | note =>
      simp only [next, hr] at h
      exact hend (by simp [hr, Role.calm]) h
    | other =>
      simp only [next, hr] at h
      exact hend (by simp [hr, Role.calm]) h
    | call q => simp [next, hr] at h
    | wait q b =>
      cases b with
      | false =>
        simp only [next, hr] at h
        exact .waited ha hs hr (calm_of_through h)
      | true =>
        simp only [next, hr] at h
        rcases due_of_through h with hg | ⟨gap, e', rest', rfl, hg, he', hc⟩
        · exact .waited ha hs hr hg.calm
        · exact .waitedAndCalled ha hs hr hg he' hc

def due? : Watch → Option SocketId
  | .ready s => some s
  | .calling s => some s
  | _ => none

theorem due_next {w w' : Watch} {e : Event} {s : SocketId} (hn : w.next e = some w')
    (hw : w'.due? = some s) : e.role = .wait s true ∨ (e.role.gap = true ∧ w.due? = some s) := by
  unfold next at hn
  split at hn <;> grind [due?, Role.gap]

theorem asked_of_through {t : Trace} {w v : Watch} {s : SocketId} (h : w.through t = some v)
    (hv : v.due? = some s) : t.Asked s ∨ (t.Gap ∧ w.due? = some s) := by
  induction t generalizing w with
  | nil =>
    simp only [through_nil, Option.some.injEq] at h
    subst h
    exact .inr ⟨by simp [Trace.Gap], hv⟩
  | cons e rest ih =>
    rw [through_cons] at h
    cases hn : w.next e with
    | none => simp [hn] at h
    | some w' =>
      rw [hn] at h
      rcases ih h with ⟨before, e', gap, rfl, he, hg⟩ | ⟨hg, hw⟩
      · exact .inl ⟨e :: before, e', gap, rfl, he, hg⟩
      · rcases due_next hn hw with he | ⟨he, hd⟩
        · exact .inl ⟨[], e, rest, rfl, he, hg⟩
        · exact .inr ⟨Trace.gap_cons.2 ⟨he, hg⟩, hd⟩

theorem due_of_gap {t : Trace} {w v : Watch} {s : SocketId} (h : w.through t = some v) (ht : t.Gap)
    (hw : w.due? = some s) : v.due? = some s := by
  induction t generalizing w with
  | nil =>
    simp only [through_nil, Option.some.injEq] at h
    rw [← h]
    exact hw
  | cons e rest ih =>
    obtain ⟨he, hr⟩ := Trace.gap_cons.1 ht
    rw [through_cons] at h
    cases hn : w.next e with
    | none => simp [hn] at h
    | some w' =>
      rw [hn] at h
      refine ih h hr ?_
      unfold next at hn
      split at hn <;> grind [due?, Role.gap]

theorem due_of_asked {t : Trace} {w v : Watch} {s : SocketId} (h : w.through t = some v)
    (ht : t.Asked s) :
    v.due? = some s := by
  obtain ⟨before, e, gap, rfl, he, hg⟩ := ht
  rw [through_append] at h
  cases hb : w.through before with
  | none => simp [hb] at h
  | some u =>
    rw [hb] at h
    simp only [Option.bind_some, through_cons] at h
    cases hn : u.next e with
    | none => simp [hn] at h
    | some u' =>
      rw [hn] at h
      refine due_of_gap h hg ?_
      unfold next at hn
      split at hn <;> grind [due?]

theorem aftermath_of_through {before after : Trace} {e : Event} {v : Watch}
    (h : awake.through (before ++ e :: after) = some v) (he : e.isStop = true) :
    Trace.Aftermath before after := by
  have hr := Event.role_eq_stop.2 he
  rw [through_append] at h
  cases hw : awake.through before with
  | none => simp [hw] at h
  | some w =>
    rw [hw] at h
    simp only [Option.bind_some, through_cons] at h
    have hdue : ∀ s, w.due? = some s → (calling s).through after = some v →
        Trace.Aftermath before after := by
      intro s hs ha
      have hask : before.Asked s := by
        rcases asked_of_through hw hs with ha | ⟨-, hd⟩
        · exact ha
        · simp [due?] at hd
      rcases due_of_through ha with hg | ⟨gap, e', rest, rfl, hg, he', hc⟩
      · exact .calm hg.calm
      · exact .called hask hg he' hc
    have hidle : w.due? = none → ∀ q, ¬ before.Asked q := by
      intro hn q hq
      rw [due_of_asked hw hq] at hn
      simp at hn
    cases w with
    | awake => exact aftermath_of_stopping (hidle rfl) (by simpa [next, hr] using h)
    | stopping => exact aftermath_of_stopping (hidle rfl) (by simpa [next, hr] using h)
    | winding => exact .calm (calm_of_through (by simpa [next, hr] using h))
    | ready s => exact hdue s rfl (by simpa [next, hr] using h)
    | calling s => exact hdue s rfl (by simpa [next, hr] using h)

end Watch

end SctpProbe.Network
