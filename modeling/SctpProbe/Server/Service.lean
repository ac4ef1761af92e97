import SctpProbe.Messaging.Mailbox
import SctpProbe.Stream.Progress
set_option autoImplicit false

namespace SctpProbe

open Network

def round {σ : Type} (cancelled : σ → Bool) (once : σ → Ran σ Bool) (s : σ) : Turn σ Bool :=
  if cancelled s then .done ⟨[], s, .ok true⟩
  else
    let r := once s
    match r.result with
    | .ok true => .again r.trace r.state
    | _ => .done r

theorem shrinks_round {σ : Type} {cancelled : σ → Bool} {once : σ → Ran σ Bool} {weight : σ → Nat}
    (h : ∀ s, cancelled s = false → (once s).result = .ok true → weight (once s).state < weight s) :
    Shrinks (round cancelled once) weight := by
  intro s trace next ht
  unfold round at ht
  split at ht
  · simp at ht
  · next hc =>
    simp only at ht
    split at ht
    · next hr =>
      simp only [Turn.again.injEq] at ht
      rw [← ht.2]
      exact h s (by simpa using hc) hr
    · simp at ht

def Stream.Listener.service (s : Stream.Listener) : Ran Stream.Listener Bool :=
  loop (round (fun s => s.token.cancelled) Stream.Listener.runOnce) Stream.Listener.remaining
    (shrinks_round fun s hc _ => Stream.Listener.remaining_runOnce s hc) s

namespace Messaging.Mailbox

theorem cancelled_runOnce (s : Mailbox) :
    s.runOnce.result = .ok true → s.runOnce.state.token.cancelled = true := by
  refine loop_induction (fun _ ran => ran.result = .ok true → ran.state.token.cancelled = true)
    ?_ ?_ s
  · intro s ran h
    unfold turn at h
    split at h
    · next hc =>
      simp only [Turn.done.injEq] at h
      subst h
      exact fun _ => hc
    · simp only at h
      split at h
      · simp only [Turn.done.injEq] at h
        subst h
        simp
      · simp only [Turn.done.injEq] at h
        subst h
        simp
      · simp at h
      · next item hi =>
        obtain ⟨inner, hr, hs⟩ := Turn.after_eq_done h
        subst hs
        unfold receive at hr
        split at hr
        · unfold takePiece at hr
          simp only at hr
          repeat' split at hr
          all_goals simp at hr
          all_goals subst hr
          all_goals simp [Ran.after]
        · simp only at hr
          split at hr
          · simp at hr
          · simp only [Turn.done.injEq] at hr
            subst hr
            simp [Ran.after]
  · intro s trace next ran _ ih
    exact ih

def service (s : Mailbox) : Ran Mailbox Bool :=
  loop (round (fun s => s.token.cancelled) runOnce) (fun s => s.token.weight)
    (shrinks_round fun s hc hr => by
      have hs := cancelled_runOnce s hr
      simp only [Token.weight, hs, hc]
      decide) s

end Messaging.Mailbox

end SctpProbe
