import SctpProbe.Stream.Listener
set_option autoImplicit false

namespace SctpProbe.Stream

open Network

theorem Session.weight_takeChunk (s : Session) (item : Item (List UInt8)) (bytes : List UInt8) :
    (∀ trace next, s.takeChunk item bytes = .again trace next →
    next.token.weight ≤ s.token.weight) ∧
      ∀ ran, s.takeChunk item bytes = .done ran → ran.state.token.weight ≤ s.token.weight := by
  constructor
  · intro trace next h
    unfold takeChunk at h
    simp only at h
    split at h
    · simp at h
    · split at h
      · split at h
        · simp only [Turn.again.injEq] at h
          rw [← h.2]
          exact weight_echo_le ..
        · simp at h
      · simp only [Turn.again.injEq] at h
        obtain ⟨_, rfl⟩ := h
        exact Nat.le_refl _
  · intro ran h
    unfold takeChunk at h
    simp only at h
    split at h
    · simp only [Turn.done.injEq] at h
      subst h
      exact Nat.le_refl _
    · split at h
      · split at h
        · simp at h
        · simp only [Turn.done.injEq] at h
          rw [← h]
          exact weight_echo_le ..
      · simp at h

theorem Session.weight_receive (s : Session) (item : Item (List UInt8)) :
    (∀ trace next, s.receive item = .again trace next → next.token.weight ≤ s.token.weight) ∧
      ∀ ran, s.receive item = .done ran → ran.state.token.weight ≤ s.token.weight := by
  unfold receive
  split
  · exact s.weight_takeChunk item _
  · simp only
    split
    · refine ⟨fun trace next h => ?_, fun ran h => by simp at h⟩
      simp only [Turn.again.injEq] at h
      obtain ⟨_, rfl⟩ := h
      exact Nat.le_refl _
    · refine ⟨fun trace next h => by simp at h, fun ran h => ?_⟩
      simp only [Turn.done.injEq] at h
      subst h
      exact Nat.le_refl _

theorem Session.weight_turn (s : Session) :
    (∀ trace next, s.turn = .again trace next → next.token.weight ≤ s.token.weight) ∧
      ∀ ran, s.turn = .done ran → ran.state.token.weight ≤ s.token.weight := by
  have hwait : s.poll.token.weight ≤ s.token.weight := weight_wait_le ..
  have hcall : ∀ item : Item (List UInt8),
      (s.poll.token.strike item .call).2.weight ≤ s.token.weight := fun item =>
    Nat.le_trans (s.poll.token.weight_strike_le item .call) hwait
  constructor
  · intro trace next h
    unfold turn at h
    split at h
    · simp at h
    · simp only at h
      split at h
      · simp at h
      · simp at h
      · simp only [Turn.again.injEq] at h
        rw [← h.2]
        exact hwait
      · next item hi =>
        obtain ⟨_, hr⟩ := Turn.after_eq_again h
        exact Nat.le_trans ((Session.weight_receive _ item).1 _ _ hr) (hcall item)
  · intro ran h
    unfold turn at h
    split at h
    · simp only [Turn.done.injEq] at h
      subst h
      exact Nat.le_refl _
    · simp only at h
      split at h
      · simp only [Turn.done.injEq] at h
        rw [← h]
        exact hwait
      · simp only [Turn.done.injEq] at h
        rw [← h]
        exact hwait
      · simp at h
      · next item hi =>
        obtain ⟨inner, hr, hs⟩ := Turn.after_eq_done h
        rw [hs, Ran.state_after]
        exact Nat.le_trans ((Session.weight_receive _ item).2 _ hr) (hcall item)

theorem Session.weight_run_le (s : Session) : s.run.state.token.weight ≤ s.token.weight :=
  loop_induction (fun s ran => ran.state.token.weight ≤ s.token.weight)
    (fun s ran h => s.weight_turn.2 ran h)
    (fun s trace next _ h ih => Nat.le_trans ih (s.weight_turn.1 trace next h)) s

namespace Listener

theorem remaining_acceptItem (s : Listener) (item : Item Connection) :
    ∀ ran, s.acceptItem item = .done ran → ran.state.remaining = s.remaining := by
  intro ran h
  unfold acceptItem at h
  split at h
  · simp only [Turn.done.injEq] at h
    subst h
    unfold adopt
    simp only
    split
    · rfl
    · split <;> rfl
  · simp only at h
    split at h
    · simp at h
    · simp only [Turn.done.injEq] at h
      subst h
      rfl

theorem remaining_accept (s : Listener) :
    s.accept.state.remaining ≤ s.remaining ∧
      (s.token.cancelled = false → s.accept.state.remaining < s.remaining) := by
  refine @loop_induction _ _ acceptTurn remaining shrinks_acceptTurn
    (fun s ran => ran.state.remaining ≤ s.remaining ∧
      (s.token.cancelled = false → ran.state.remaining < s.remaining)) ?_ ?_ s
  · intro s ran h
    unfold acceptTurn at h
    split at h
    · next hc =>
      simp only [Turn.done.injEq] at h
      subst h
      exact ⟨Nat.le_refl _, fun hf => by rw [hf] at hc; exact absurd hc (by simp)⟩
    · next hc =>
      have hlt := remaining_wait_lt size s.context.config.pollTimeout.toValue s.token
        s.endpoint (by simpa using hc)
      suffices hs : ran.state.remaining < s.remaining from ⟨Nat.le_of_lt hs, fun _ => hs⟩
      simp only at h
      split at h
      · simp only [Turn.done.injEq] at h
        subst h
        exact hlt
      · simp only [Turn.done.injEq] at h
        subst h
        exact hlt
      · simp at h
      · next item hi =>
        obtain ⟨inner, hr, hs⟩ := Turn.after_eq_done h
        rw [hs, Ran.state_after, remaining_acceptItem _ item inner hr]
        have hw := s.poll.token.weight_strike_le item .call
        simp only [remaining, Network.remaining] at *
        simp only [poll] at *
        omega
  · intro s trace next ran h ih
    have := shrinks_acceptTurn s trace next h
    simp only [Ran.after]
    exact ⟨by omega, fun _ => by omega⟩

theorem remaining_welcome (s : Listener) (conn : Endpoint (List UInt8)) (peer : Option Peer) :
    (s.welcome conn peer).state.remaining ≤ s.remaining := by
  have h := Session.weight_run_le ⟨s.token, conn, s.context⟩
  unfold welcome
  split
  · exact Nat.le_refl _
  · simp only [Ran.after, serve]
    split <;> (simp only [leave, remaining, Network.remaining] at *; omega)

theorem remaining_runOnce (s : Listener) (h : s.token.cancelled = false) :
    s.runOnce.state.remaining < s.remaining := by
  have ha := s.remaining_accept.2 h
  unfold runOnce
  simp only
  split
  · exact ha
  · exact Nat.lt_of_le_of_lt (remaining_welcome ..) ha
  · exact ha
  · exact ha

end Listener

end SctpProbe.Stream
