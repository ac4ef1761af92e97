import SctpProbe.Server.Service
set_option autoImplicit false

namespace SctpProbe

open Network

section

variable {σ : Type} {cancelled : σ → Bool} {once : σ → Ran σ Bool}

/-- The ways in which a round of servicing can end. -/
inductive Servicing (cancelled : σ → Bool) (once : σ → Ran σ Bool) (s : σ) : Turn σ Bool → Prop
  | stopped (h : cancelled s = true) : Servicing cancelled once s (.done ⟨[], s, .ok true⟩)
  | again (h : cancelled s = false) (hr : (once s).result = .ok true) :
    Servicing cancelled once s (.again (once s).trace (once s).state)
  | done (h : cancelled s = false) (hr : (once s).result ≠ .ok true) :
    Servicing cancelled once s (.done (once s))

theorem servicing (cancelled : σ → Bool) (once : σ → Ran σ Bool) (s : σ) :
    Servicing cancelled once s (round cancelled once s) := by
  unfold round
  split
  · next h => exact .stopped h
  · next h =>
    have h0 : cancelled s = false := Bool.eq_false_iff.2 h
    simp only
    split
    · next hr => exact .again h0 hr
    · next hr => exact .done h0 hr

/-- A statement that holds without a round, of the last round, and of a further round if it holds of
the rest, holds of the whole. -/
theorem loop_round_induction {weight : σ → Nat} {shrinks : Shrinks (round cancelled once) weight}
    (holds : σ → Ran σ Bool → Prop)
    (stopped : ∀ s, cancelled s = true → holds s ⟨[], s, .ok true⟩)
    (done : ∀ s, cancelled s = false → (once s).result ≠ .ok true → holds s (once s))
    (again : ∀ s ran, cancelled s = false → (once s).result = .ok true → holds (once s).state ran →
      holds s (ran.after (once s).trace))
    (s : σ) : holds s (loop (round cancelled once) weight shrinks s) := by
  refine loop_induction holds ?_ ?_ s
  · intro s ran ht
    have hs := ht ▸ servicing cancelled once s
    cases hs with
    | stopped h => exact stopped s h
    | done h hr => exact done s h hr
  · intro s trace next ran ht ih
    have hs := ht ▸ servicing cancelled once s
    cases hs with
    | again h hr => exact again s ran h hr ih

theorem loop_round_of_cancelled {weight : σ → Nat}
    {shrinks : Shrinks (round cancelled once) weight} {s : σ}
    (h : cancelled s = true) :
    loop (round cancelled once) weight shrinks s = ⟨[], s, .ok true⟩ := by
  rw [loop_eq]
  simp [round, h]

end

theorem Stream.Listener.service_of_cancelled (s : Listener) (h : s.token.cancelled = true) :
    s.service = ⟨[], s, .ok true⟩ :=
  loop_round_of_cancelled h

theorem Stream.Listener.service_induction (holds : Listener → Ran Listener Bool → Prop)
    (stopped : ∀ s : Listener, s.token.cancelled = true → holds s ⟨[], s, .ok true⟩)
    (done : ∀ s : Listener, s.token.cancelled = false → s.runOnce.result ≠ .ok true →
    holds s s.runOnce)
    (again : ∀ (s : Listener) ran, s.token.cancelled = false → s.runOnce.result = .ok true →
      holds s.runOnce.state ran → holds s (ran.after s.runOnce.trace))
    (s : Listener) : holds s s.service :=
  loop_round_induction holds stopped done again s

namespace Messaging.Mailbox

theorem service_of_cancelled (s : Mailbox) (h : s.token.cancelled = true) :
    s.service = ⟨[], s, .ok true⟩ :=
  loop_round_of_cancelled h

/-- A mailbox is serviced once, as its only way to come out of that well is a request to stop. -/
theorem service_eq (s : Mailbox) (h : s.token.cancelled = false) : s.service = s.runOnce := by
  have hs := servicing (fun s : Mailbox => s.token.cancelled) runOnce s
  unfold service
  rw [loop_eq]
  generalize SctpProbe.round (fun s : Mailbox => s.token.cancelled) runOnce s = turn at hs ⊢
  cases hs with
  | stopped hc => simp [h] at hc
  | again hc hr =>
    have hl := service_of_cancelled s.runOnce.state (s.cancelled_runOnce hr)
    unfold service at hl
    simp only [hl, Ran.after, List.append_nil, ← hr]
  | done hc hr => rfl

end Messaging.Mailbox

end SctpProbe
