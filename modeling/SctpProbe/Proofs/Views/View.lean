import SctpProbe.Context
import SctpProbe.Proofs.Waiting
set_option autoImplicit false

/-!
Views. Somebody who looks at a run may miss some of its events and may be unable to tell some of its
states from others. A loop looks the same from a state and from what that state is taken for if each
of its turns does, where turns that show nothing and change nothing need no counterpart
(`loop_seen`). A `View` also says which items of a script leave no impression; a wait that does not
meet such an item looks the same on both sides (`View.wait_endpoint`).
-/

namespace SctpProbe

open Network

section

variable {σ τ α β : Type}

/-- What is left of a part of a run for somebody who keeps some events only and takes states and
results for others. -/
def Ran.seen (keeps : Event → Bool) (f : σ → τ) (g : α → β) (r : Ran σ α) : Ran τ β :=
  ⟨r.trace.filter keeps, f r.state, r.result.map g⟩

def Turn.seen (keeps : Event → Bool) (f : σ → τ) (g : α → β) : Turn σ α → Turn τ β
  | .again trace next => .again (trace.filter keeps) (f next)
  | .done ran => .done (ran.seen keeps f g)

theorem Ran.seen_after (keeps : Event → Bool) (f : σ → τ) (g : α → β) (r : Ran σ α)
    (before : Trace) :
    (r.after before).seen keeps f g = (r.seen keeps f g).after (before.filter keeps) := by
  simp [seen, after]

theorem Turn.seen_after (keeps : Event → Bool) (f : σ → τ) (g : α → β) (t : Turn σ α)
    (before : Trace) :
    (t.after before).seen keeps f g = (t.seen keeps f g).after (before.filter keeps) := by
  cases t with
  | again trace next => simp [after, seen]
  | done ran => simp [after, seen, Ran.seen_after]

/-- A turn that shows nothing and leads to a state that is taken for the one before. -/
def Unnoticed (keeps : Event → Bool) (f : σ → σ) (turn : σ → Turn σ α) (s : σ) : Prop :=
  ∃ trace next, turn s = .again trace next ∧ trace.filter keeps = [] ∧ f next = f s

/-- A loop looks the same from a state and from what it is taken for. -/
theorem loop_seen {turn : σ → Turn σ α} {weight : σ → Nat} {shrinks : Shrinks turn weight}
    {keeps : Event → Bool} {f : σ → σ} {g : α → α} (holds : σ → Prop)
    (step : ∀ s trace next, holds s → turn s = .again trace next → holds next)
    (alike : ∀ s, holds s →
      (turn (f s)).seen keeps id id = (turn s).seen keeps f g ∨ Unnoticed keeps f turn s)
    (s : σ) (h : holds s) :
    (loop turn weight shrinks (f s)).seen keeps id id =
      (loop turn weight shrinks s).seen keeps f g := by
  refine loop_induction (fun s ran => holds s →
    (loop turn weight shrinks (f s)).seen keeps id id = ran.seen keeps f g) ?_ ?_ s h
  · intro s ran ht h
    rcases alike s h with ha | ⟨trace, next, hn, -⟩
    · rw [loop_eq]
      rw [ht] at ha
      cases hf : turn (f s) with
      | again trace next => simp [hf, Turn.seen] at ha
      | done ran' => simpa [hf, Turn.seen] using ha
    · simp [ht] at hn
  · intro s trace next ran ht ih h
    have hnext := ih (step s trace next h ht)
    rcases alike s h with ha | ⟨trace', next', hn, hq, hs⟩
    · rw [loop_eq]
      rw [ht] at ha
      cases hf : turn (f s) with
      | done ran' => simp [hf, Turn.seen] at ha
      | again trace' next' =>
        simp only [hf, Turn.seen, Turn.again.injEq, id_eq] at ha
        simp only [Ran.seen_after, ha.2, ha.1, hnext]
    · rw [ht] at hn
      simp only [Turn.again.injEq] at hn
      obtain ⟨rfl, rfl⟩ := hn
      rw [← hs, hnext, Ran.seen_after, hq]
      rfl

end

namespace Network

variable {α β : Type}

def Item.map (f : α → β) (i : Item α) : Item β :=
  ⟨i.poll, i.error?, i.stop?, i.signal?, i.payload?.map f⟩

@[simp] theorem Item.map_id (i : Item α) : i.map id = i := by
  simp [map]

theorem Item.delivery_map (f : α → β) (i : Item α) : (i.map f).delivery = i.delivery.map f := by
  unfold delivery map
  cases i.error? <;> cases i.payload? <;> rfl

def Found.map (f : α → β) : Found α → Found β
  | .ready item => .ready (item.map f)
  | .idle => .idle
  | .broken e => .broken e
  | .refused fault => .refused fault

@[simp] theorem Found.map_id (x : Found α) : x.map id = x := by
  cases x <;> simp [map]

end Network

/-- A way to look at a server. Some events are not kept and some items leave no impression; what
becomes of the calls that send, the switches and the send timeout may be taken for something else.
-/
structure View where
  keeps : Event → Bool
  skips : {α : Type} → Item α → Bool
  sends : List Send → List Send
  echo : Value → Value
  verbose : Value → Value
  sendTimeout : Value → Value
  skips_delivering : ∀ {α : Type} (p : α), skips (.delivering p) = false
  truthy_verbose : ∀ x, (verbose x).truthy = x.truthy

namespace View

variable {α β : Type}

def config (v : View) (c : Config) : Config :=
  { c with
    echo := v.echo c.echo
    verbose := v.verbose c.verbose
    sendTimeout := v.sendTimeout c.sendTimeout }

def context (v : View) (c : Context) : Context :=
  { c with
    config := v.config c.config
    verbose := v.verbose c.verbose
    echo := v.echo c.echo }

def script (v : View) (f : α → β) (items : List (Item α)) : List (Item β) :=
  (items.filter fun i => !v.skips i).map (Item.map f)

def endpoint (v : View) (f : α → β) (e : Endpoint α) : Endpoint β :=
  ⟨e.id, v.script f e.script, v.sends e.sends, e.shut⟩

theorem script_nil (v : View) (f : α → β) : v.script f [] = [] := rfl

theorem script_cons (v : View) (f : α → β) {i : Item α} (h : v.skips i = false)
    (items : List (Item α)) : v.script f (i :: items) = i.map f :: v.script f items := by
  simp [script, h]

theorem script_skip (v : View) (f : α → β) {i : Item α} (h : v.skips i = true)
    (items : List (Item α)) : v.script f (i :: items) = v.script f items := by
  simp [script, h]

theorem script_append (v : View) (f : α → β) (items later : List (Item α)) :
    v.script f (items ++ later) = v.script f items ++ v.script f later := by
  simp [script]

/-- Whether the next wait for a socket meets something that leaves an impression. -/
def Meets (v : View) (e : Endpoint α) : Prop := ∀ i ∈ e.script.head?, v.skips i = false

theorem wait_endpoint (v : View) (f : α → β) (timeout : Value) (t : Token) {e : Endpoint α}
    (h : v.Meets e) :
    wait timeout t (v.endpoint f e) = ⟨(wait timeout t e).trace, (wait timeout t e).token,
      v.endpoint f (wait timeout t e).endpoint, (wait timeout t e).found.map f⟩ := by
  obtain ⟨id, script, sends, shut⟩ := e
  cases script with
  | nil =>
    simp only [wait, endpoint, script_nil]
    cases outcomeAtEnd timeout shut with
    | error fault => rfl
    | ok o => cases o <;> rfl
  | cons i rest =>
    have hi := h i rfl
    simp only [wait, endpoint, script_cons v f hi]
    change Waited.ofOutcome (t.strike i .wait).1 timeout (t.strike i .wait).2 _ _
      (outcome timeout shut i) = _
    cases outcome timeout shut i with
    | error fault => rfl
    | ok o => cases o <;> rfl

end View

end SctpProbe
