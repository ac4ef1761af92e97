import SctpProbe.Proofs.Rendering
import SctpProbe.Proofs.Stopping
set_option autoImplicit false

namespace SctpProbe

open Network

/-- What comes to an end, with or without a result. -/
def Ends {α : Type} (r : Except Fault α) : Prop := r ≠ .error .endless

section

variable {α β : Type} {r : Except Fault α}

theorem ends_ok (a : α) : Ends (.ok a : Except Fault α) := by simp [Ends]

theorem ends_error {f : Fault} (h : f ≠ .endless) : Ends (.error f : Except Fault α) := by
  simpa [Ends] using h

theorem Ends.bind {g : α → Except Fault β} (h : Ends r) (hg : ∀ a, Ends (g a)) :
    Ends (r >>= g) := by
  cases r with
  | ok a => exact hg a
  | error f =>
    intro hf
    rw [show (Except.error f >>= g) = .error f from rfl, Except.error.injEq] at hf
    exact h (by rw [hf])

end

namespace Value

theorem ends_quoted (v : Value) : Ends v.quoted :=
  fun h => Fault.noConfusion (eq_tooManyDigits_of_quoted v h)

theorem ends_shown (v : Value) : Ends v.shown :=
  fun h => Fault.noConfusion (eq_tooManyDigits_of_shown h)

end Value

theorem Address.ends_ofValue? (v : Value) : Ends (Address.ofValue? v) := by
  unfold ofValue?
  split
  · repeat' split
    all_goals exact ends_ok _
  · repeat' split
    all_goals exact ends_ok _
  · repeat' split
    all_goals exact ends_ok _
  · exact (Value.ends_shown _).bind fun _ => ends_ok _

theorem Address.ends_ofValue (v : Value) : Ends (Address.ofValue v) := by
  refine (ends_ofValue? v).bind fun a? => ?_
  cases a? with
  | some a => exact ends_ok a
  | none => exact v.ends_quoted.bind fun _ => ends_error (by simp)

namespace Peer

theorem ends_ofSocketAddress (v : Value) : Ends (ofSocketAddress v) :=
  fun h => by simpa using ofSocketAddress_error h

theorem ends_mapped (p : Peer) : Ends p.mapped? := by
  unfold mapped?
  split
  · refine (Address.ends_ofValue _).bind fun a => ?_
    cases a with
    | v4 n => exact ends_error (by simp)
    | v6 bits => exact ends_ok _
  · exact ends_ok _

theorem ends_shown (p : Peer) : Ends p.shown := by
  have hpair : ∀ f : String → String → String,
      Ends (do
        let host ← p.host.shown
        let port ← p.port.shown
        return f host port) := fun f =>
    (Value.ends_shown _).bind fun _ => (Value.ends_shown _).bind fun _ => ends_ok _
  unfold shown
  split
  · exact hpair _
  · refine p.ends_mapped.bind fun quad? => ?_
    cases quad? with
    | some quad => exact (Value.ends_shown _).bind fun _ => ends_ok _
    | none => exact hpair _

theorem ends_shownOrUnknown (p? : Option Peer) : Ends (shownOrUnknown p?) := by
  cases p? with
  | some p => exact p.ends_shown
  | none => exact ends_ok _

theorem ends_display (v : Value) : Ends (display v) :=
  (ends_ofSocketAddress v).bind ends_shownOrUnknown

end Peer

theorem Network.Limit.ends_ofValue (v : Value) : Ends (Limit.ofValue v) := by
  unfold ofValue
  split
  · exact ends_ok _
  · split
    · exact fun h => by simpa using ofNumber_error h
    · exact ends_error (by simp)

namespace Server

theorem ends_announce (mode : Mode) (around : Surroundings) (socket : ServerSocket) :
    Ends (announce mode around socket).2 := by
  unfold announce
  split
  · exact ends_error (by simp)
  · split
    · next f hp => exact ends_error fun hf => Peer.ends_ofSocketAddress _ (hf ▸ hp)
    · next peer hp =>
      split
      · exact ends_ok _
      · next f hs =>
        split
        · refine ends_error fun hf => ?_
          cases peer with
          | some p => exact p.ends_shown (hf ▸ hs)
          | none => exact socket.name.ends_shown (hf ▸ hs)
        · exact ends_ok _

theorem ends_ofConfig (c : Config) : Ends (Context.ofConfig c) := by
  have hlength : Ends (Context.bufferLength c.bufferSize) := by
    unfold Context.bufferLength
    split
    · exact ends_ok _
    · exact ends_ok _
    · exact ends_error (by simp)
  exact hlength.bind fun _ => ends_ok _

/-- A run takes for ever only without a send timeout, and because a peer stays blocked. -/
theorem blocked_of_endless {s : Server} {around : Surroundings} {socket : ServerSocket}
    (h : (s.run around socket).result = .error .endless) :
    s.config.sendTimeout = .nothing ∧ s.Blocked socket (s.run around socket).trace := by
  have hcourse := s.course around socket
  generalize s.run around socket = ran at hcourse h ⊢
  cases hcourse with
  | unready hc =>
    rw [Except.error.injEq] at h
    exact absurd (h ▸ hc) (ends_ofConfig _)
  | unset => simp at h
  | unannounced _ _ ha =>
    rw [Except.error.injEq] at h
    exact absurd (h ▸ ha) (ends_announce _ _ _)
  | @served c hc =>
    have hmain : (s.mainLoop socket c).result = .error .endless := by
      cases hm : (s.mainLoop socket c).result with
      | ok usable => simp [hm, Except.map] at h
      | error f => simpa [hm, Except.map] using h
    cases excuse_of_fault hc hmain around with
    | poll hl => exact absurd (Limit.ofNumber_error hl) (by simp)
    | send _ _ hl => exact absurd hl (Limit.ends_ofValue _)
    | stall _ _ hn hb => exact ⟨hn, hb⟩
    | untold _ _ _ hd => exact absurd hd (Peer.ends_display _)

end Server

end SctpProbe
