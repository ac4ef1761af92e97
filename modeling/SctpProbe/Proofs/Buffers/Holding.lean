import SctpProbe.Proofs.Stalling
set_option autoImplicit false

namespace SctpProbe

open Network

section

variable {σ α : Type} {turn : σ → Turn σ α} {s last : σ}

/-- The states in which a turn of a loop begins. -/
inductive Reaches (turn : σ → Turn σ α) : σ → σ → Prop
  | here (s : σ) : Reaches turn s s
  | further {s next last : σ} {trace : Trace} (h : turn s = .again trace next)
    (hl : Reaches turn next last) : Reaches turn s last

/-- What every turn hands on, a loop hands on to all its turns. -/
theorem Reaches.carries {R : σ → σ → Prop} (refl : ∀ s, R s s)
    (trans : ∀ {a b c}, R a b → R b c → R a c)
    (again : ∀ {s trace next}, turn s = .again trace next → R s next)
    (h : Reaches turn s last) : R s last := by
  induction h with
  | here s => exact refl s
  | further h _ ih => exact trans (again h) ih

end

namespace Stream

/-- A session goes through contexts that differ in the bytes of the buffer only. -/
theorem Session.kept_of_reaches {s last : Session} (h : Reaches turn s last) :
    s.context.Kept last.context :=
  @Reaches.carries _ _ turn s last (fun a b => a.context.Kept b.context) (fun _ => .refl _)
    (fun h k => h.trans k) (fun h => (frame_again h).context) h

namespace Listener

theorem context_of_reaches {s last : Listener} (h : Reaches acceptTurn s last) :
    last.context = s.context :=
  @Reaches.carries _ _ acceptTurn s last (fun a b => b.context = a.context) (fun _ => rfl)
    (fun h k => k.trans h) (fun h => (quiet_again h).context) h

theorem kept_of_reaches {s last : Listener}
    (h : Reaches (round (fun s : Listener => s.token.cancelled) runOnce) s last) :
    s.context.Kept last.context := by
  refine @Reaches.carries _ _ _ s last (fun a b => a.context.Kept b.context) (fun _ => .refl _)
    (fun h k => h.trans k) (fun {s trace next} h => ?_) h
  have hs := h ▸ servicing (fun s : Listener => s.token.cancelled) runOnce s
  cases hs with
  | again => exact (lasting_round s.rounding).context

/-- The contexts of a listener that is serviced: as it accepts, and in the sessions that it holds.
-/
inductive Holds (s : Listener) : Context → Prop
  | accepting {l a : Listener}
    (hl : Reaches (round (fun s : Listener => s.token.cancelled) runOnce) s l)
    (ha : Reaches acceptTurn l a) : Holds s a.context
  | serving {l : Listener} {conn : Endpoint (List UInt8)} {peer : Option Peer} {shown : String}
    {q : Session} (hl : Reaches (round (fun s : Listener => s.token.cancelled) runOnce) s l)
    (hr : l.accept.result = .ok (some (conn, peer)))
    (hp : Peer.shownOrUnknown peer = .ok shown)
    (hq : Reaches Session.turn ⟨l.accept.state.token, conn, l.accept.state.context⟩ q) :
    Holds s q.context

theorem kept_of_holds {s : Listener} {d : Context} (h : s.Holds d) : s.context.Kept d := by
  cases h with
  | accepting hl ha =>
    rw [context_of_reaches ha]
    exact kept_of_reaches hl
  | @serving l _ _ _ _ hl _ _ hq =>
    exact ((kept_of_reaches hl).trans l.lasting_accept.context).trans (Session.kept_of_reaches hq)

end Listener

end Stream

theorem Messaging.Mailbox.kept_of_reaches {s last : Mailbox} (h : Reaches turn s last) :
    s.context.Kept last.context :=
  @Reaches.carries _ _ turn s last (fun a b => a.context.Kept b.context) (fun _ => .refl _)
    (fun h k => h.trans k) (fun h => (frame_again h).context) h

namespace Server

def inbox (s : Server) (socket : ServerSocket) (c : Context) : Messaging.Mailbox :=
  (s.up socket c).mailbox s.socketId socket (s.prepared socket c).2

/-- The contexts of a run, from the making of the buffer until the server shuts down. -/
inductive Holds (s : Server) (around : Surroundings) (socket : ServerSocket) : Context → Prop
  | created {c : Context} (hc : Context.ofConfig s.config = .ok c) : Holds s around socket c
  | prepared {c : Context} (hc : Context.ofConfig s.config = .ok c)
    (hs : (s.setup around socket).2 = .ok ()) : Holds s around socket (s.prepared socket c).2
  | streaming {c d : Context} (hc : Context.ofConfig s.config = .ok c)
    (hs : (s.setup around socket).2 = .ok ())
    (ha : (announce s.config.mode around socket).2 = .ok ()) (hm : s.config.mode = .stream)
    (hd : (s.front socket c).Holds d) : Holds s around socket d
  | messaging {c : Context} {q : Messaging.Mailbox} (hc : Context.ofConfig s.config = .ok c)
    (hs : (s.setup around socket).2 = .ok ())
    (ha : (announce s.config.mode around socket).2 = .ok ()) (hm : s.config.mode = .message)
    (hq : Reaches Messaging.Mailbox.turn (s.inbox socket c) q) : Holds s around socket q.context
  | leaving {c d : Context} (hc : Context.ofConfig s.config = .ok c)
    (hs : (s.setup around socket).2 = .ok ())
    (ha : (announce s.config.mode around socket).2 = .ok ())
    (hd : (s.mainLoop socket c).state.context? = some d) : Holds s around socket d

section

variable {s : Server} {around : Surroundings} {socket : ServerSocket} {c d : Context}

/-- Until it shuts down, a run has a buffer of one and the same length. -/
theorem room_of_holds (h : Holds s around socket d) :
    ∃ c, Context.ofConfig s.config = .ok c ∧ d.room = c.room := by
  have hprepared := s.room_prepared socket
  cases h with
  | created hc => exact ⟨_, hc, rfl⟩
  | prepared hc => exact ⟨_, hc, hprepared _⟩
  | streaming hc _ _ _ hd =>
    exact ⟨_, hc, (Stream.Listener.kept_of_holds hd).room.trans (hprepared _)⟩
  | messaging hc _ _ _ hq =>
    exact ⟨_, hc, (Messaging.Mailbox.kept_of_reaches hq).room.trans (hprepared _)⟩
  | @leaving c _ hc _ _ hd =>
    have hv := (s.up socket c).served s.socketId socket (s.prepared socket c).2
    obtain ⟨d', hd', hk⟩ := hv.context
    have hsame : d' = d := Option.some.inj (hd'.symm.trans hd)
    exact ⟨_, hc, hsame ▸ hk.room.trans (hprepared _)⟩

end

end Server

end SctpProbe
