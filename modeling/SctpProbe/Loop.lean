import SctpProbe.Network.Event
set_option autoImplicit false

/-!
Loops that end. A loop is given by its turn, which either leads to another turn or ends the loop; a
weight that every further turn makes smaller shows that the loop comes to an end. `loop_eq` unfolds
a loop by one turn, and `loop_induction` proves a statement about a loop from its turns.
-/

namespace SctpProbe

open Network (Event Trace)

/-- What a part of a run did, what it left behind, and how it came out. -/
structure Ran (σ α : Type) where
  trace : Trace
  state : σ
  result : Except Fault α

namespace Ran

variable {σ α : Type}

def after (r : Ran σ α) (before : Trace) : Ran σ α := { r with trace := before ++ r.trace }

@[simp] theorem trace_after (r : Ran σ α) (before : Trace) :
    (r.after before).trace = before ++ r.trace := rfl

@[simp] theorem state_after (r : Ran σ α) (before : Trace) : (r.after before).state = r.state := rfl

@[simp] theorem result_after (r : Ran σ α) (before : Trace) :
    (r.after before).result = r.result := rfl

end Ran

inductive Turn (σ α : Type)
  | again (trace : Trace) (next : σ)
  | done (ran : Ran σ α)

variable {σ α : Type}

def Turn.after (t : Turn σ α) (before : Trace) : Turn σ α :=
  match t with
  | .again trace next => .again (before ++ trace) next
  | .done ran => .done (ran.after before)

theorem Turn.after_eq_again {t : Turn σ α} {before trace : Trace} {next : σ}
    (h : t.after before = .again trace next) : ∃ rest, t = .again rest next := by
  cases t with
  | again rest s =>
    simp only [Turn.after, Turn.again.injEq] at h
    exact ⟨rest, by rw [h.2]⟩
  | done ran => simp [Turn.after] at h

theorem Turn.after_eq_done {t : Turn σ α} {before : Trace} {ran : Ran σ α}
    (h : t.after before = .done ran) : ∃ inner, t = .done inner ∧ ran = inner.after before := by
  cases t with
  | again rest s => simp [Turn.after] at h
  | done inner =>
    simp only [Turn.after, Turn.done.injEq] at h
    exact ⟨inner, rfl, h.symm⟩

def Shrinks (turn : σ → Turn σ α) (weight : σ → Nat) : Prop :=
  ∀ s trace next, turn s = .again trace next → weight next < weight s

def loop (turn : σ → Turn σ α) (weight : σ → Nat) (shrinks : Shrinks turn weight) (s : σ) :
    Ran σ α :=
  match h : turn s with
  | .done ran => ran
  | .again trace next =>
    have := shrinks s trace next h
    (loop turn weight shrinks next).after trace
termination_by weight s

theorem loop_eq (turn : σ → Turn σ α) (weight : σ → Nat) (shrinks : Shrinks turn weight) (s : σ) :
    loop turn weight shrinks s =
      match turn s with
      | .done ran => ran
      | .again trace next => (loop turn weight shrinks next).after trace := by
  rw [loop]
  split <;> simp_all

/-- A statement that holds of a turn that ends the loop, and of a further turn if it holds of the
rest, holds of the loop. -/
theorem loop_induction {turn : σ → Turn σ α} {weight : σ → Nat} {shrinks : Shrinks turn weight}
    (holds : σ → Ran σ α → Prop)
    (done : ∀ s ran, turn s = .done ran → holds s ran)
    (again : ∀ s trace next ran, turn s = .again trace next → holds next ran →
      holds s (ran.after trace))
    (s : σ) : holds s (loop turn weight shrinks s) := by
  rw [loop_eq]
  cases h : turn s with
  | done ran => exact done s ran h
  | again trace next =>
    have := shrinks s trace next h
    exact again s trace next _ h (loop_induction holds done again next)
termination_by weight s

def times (once : σ → Ran σ α) : Nat → σ → Ran σ (List α)
  | 0, s => ⟨[], s, .ok []⟩
  | n + 1, s =>
    let r := once s
    match r.result with
    | .error f => ⟨r.trace, r.state, .error f⟩
    | .ok a =>
      let rest := times once n r.state
      (⟨rest.trace, rest.state, rest.result.map (a :: ·)⟩ : Ran σ (List α)).after r.trace

end SctpProbe
