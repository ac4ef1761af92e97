import SctpProbe.Proofs.Answers.Offer
import SctpProbe.Proofs.Failing
set_option autoImplicit false

namespace SctpProbe

namespace Messaging

open Network

def isLull (id : SocketId) : Event → Bool
  | .waited s _ _ => s == id
  | .receiveMessageFailed s e => s == id && e.isTransient
  | e => e.isStop

def isLast (id : SocketId) : Event → Bool
  | .waited s _ _ => s == id
  | .receiveMessageFailed s _ => s == id
  | .log e => e.level == .error
  | e => e.isStop

theorem isLast_of_isLull {id : SocketId} {e : Event} (h : isLull id e = true) :
    isLast id e = true := by
  cases e <;> simp_all [isLull, isLast, Event.isStop]

theorem isLull_of_isStop {id : SocketId} {e : Event} (h : e.isStop = true) :
    isLull id e = true := by
  cases e <;> simp_all [isLull, Event.isStop]

/-- A read and its response: what was shown before it, what followed, and the failure to send a
reply if there is one. -/
structure Reading where
  before : Trace
  piece : Piece
  response : Trace
  failure? : Option SystemError

namespace Reading

def trace (id : SocketId) (room : Nat) (x : Reading) : Trace :=
  x.before ++ [.receivedMessage id room DeliveryInfo.controlRoom x.piece.data.length
    x.piece.flags] ++ x.response

/-- The piece fits, and but for debug entries and requests to stop the response is its account. -/
structure Answered (id : SocketId) (c : Context) (x : Reading) : Prop where
  before : ∀ e ∈ x.before, isLull id e = true
  fits : x.piece.data.length ≤ c.room
  response : ∃ shown, Peer.display x.piece.sender = .ok shown ∧
    x.response.filter Event.told = x.piece.account id c shown x.failure?

theorem Answered.of_kept {id : SocketId} {c d : Context} {x : Reading} (h : c.Kept d)
    (hx : x.Answered id d) : x.Answered id c := by
  obtain ⟨shown, hs, hr⟩ := hx.response
  refine ⟨hx.before, h.room ▸ hx.fits, shown, hs, ?_⟩
  rw [hr, x.piece.account_kept h]

end Reading

namespace Mailbox

/-- What a turn of the loop does not change. -/
structure Onward (s next : Mailbox) : Prop where
  undisturbed : s.Undisturbed → next.Undisturbed
  id : next.endpoint.id = s.endpoint.id
  context : s.context.Kept next.context

theorem onward_again {s next : Mailbox} {trace : Trace} (h : s.turn = .again trace next) :
    Onward s next :=
  ⟨fun hu => undisturbed_again hu h, (frame_again h).id, (frame_again h).context⟩

/-- A trace as a row of readings in the order of the pieces, and what follows them. -/
structure Read (s : Mailbox) (t : Trace) (xs : List Reading) (ending : Trace) : Prop where
  trace : t = xs.flatMap (Reading.trace s.endpoint.id s.context.room) ++ ending
  answered : ∀ x ∈ xs, x.Answered s.endpoint.id s.context
  ending : ∀ e ∈ ending, isLast s.endpoint.id e = true
  order : xs.map Reading.piece <+: s.offered
  whole : s.Undisturbed → xs.map Reading.piece = s.offered

namespace Read

variable {s next : Mailbox} {t u : Trace} {xs : List Reading} {ending : Trace}

theorem last (h : ∀ e ∈ t, isLast s.endpoint.id e = true) (ho : s.Undisturbed → s.offered = []) :
    Read s t [] t :=
  ⟨rfl, by simp, h, List.nil_prefix, fun hu => (ho hu).symm⟩

theorem of_onward (hn : Onward s next) (ho : s.offered = next.offered)
    (h : Read next t xs ending) : Read s t xs ending := by
  obtain ⟨htrace, hanswered, hending, horder, hwhole⟩ := h
  rw [hn.id, hn.context.room] at htrace
  rw [hn.id] at hanswered hending
  rw [← ho] at horder hwhole
  exact ⟨htrace, fun x hx => (hanswered x hx).of_kept hn.context, hending, horder,
    fun hu => hwhole (hn.undisturbed hu)⟩

/-- What passes between two reads goes to the next one, or to the end. -/
theorem lull (hu : ∀ e ∈ u, isLull s.endpoint.id e = true) (h : Read s t xs ending) :
    ∃ xs ending, Read s (u ++ t) xs ending := by
  cases xs with
  | nil =>
    refine ⟨[], u ++ ending, by simp [h.trace], by simp, ?_, h.order, h.whole⟩
    intro e he
    rcases List.mem_append.1 he with he | he
    · exact isLast_of_isLull (hu e he)
    · exact h.ending e he
  | cons x rest =>
    refine ⟨{ x with before := u ++ x.before } :: rest, ending, ?_, ?_, h.ending, h.order, h.whole⟩
    · simp [h.trace, Reading.trace]
    · intro y hy
      rcases List.mem_cons.1 hy with rfl | hy
      · have hx := h.answered x List.mem_cons_self
        refine ⟨?_, hx.fits, hx.response⟩
        intro e he
        rcases List.mem_append.1 he with he | he
        · exact hu e he
        · exact hx.before e he
      · exact h.answered y (List.mem_cons_of_mem _ hy)

theorem reading {x : Reading} (hx : x.Answered s.endpoint.id s.context) (hn : Onward s next)
    (ho : s.offered = x.piece :: next.offered) (h : Read next t xs ending) :
    Read s (x.trace s.endpoint.id s.context.room ++ t) (x :: xs) ending := by
  obtain ⟨htrace, hanswered, hending, horder, hwhole⟩ := h
  rw [hn.id, hn.context.room] at htrace
  rw [hn.id] at hanswered hending
  refine ⟨by simp [htrace], ?_, hending, ?_, fun hu => ?_⟩
  · intro y hy
    rcases List.mem_cons.1 hy with rfl | hy
    · exact hx
    · exact (hanswered y hy).of_kept hn.context
  · rw [ho, List.map_cons]
    exact (List.prefix_cons_inj _).2 horder
  · rw [ho, List.map_cons, hwhole (hn.undisturbed hu)]

end Read

section

variable {s next : Mailbox} {item : Item Message} {m : Message} {trace response t : Trace}
  {xs : List Reading} {ending : Trace}

theorem lull_approach (hf : s.poll.found = .ready item) :
    ∀ e ∈ s.approach item, isLull s.endpoint.id e = true := by
  have hw : s.poll.trace = _ := (wait_of_ready hf).1
  intro e he
  rw [approach, hw, List.mem_append, List.mem_append, List.mem_singleton] at he
  rcases he with (he | rfl) | he
  · exact isLull_of_isStop (s.endpoint.isStop_beginning s.token e he)
  · simp [isLull]
  · exact isLull_of_isStop (s.poll.token.isStop_strike item .call e he)

theorem lull_idle (hf : s.poll.found = .idle) :
    ∀ e ∈ s.poll.trace, isLull s.endpoint.id e = true := by
  obtain ⟨o, hw, -⟩ := wait_of_idle hf
  change s.poll.trace = _ at hw
  intro e he
  rw [hw, List.mem_append, List.mem_singleton] at he
  rcases he with he | rfl
  · exact isLull_of_isStop (s.endpoint.isStop_beginning s.token e he)
  · simp [isLull]

/-- A read is made and its piece is answered. -/
theorem read_piece (hroom : 0 < s.context.room) (hf : s.poll.found = .ready item)
    (hd : item.delivery = .ok m)
    (hresponse : ∃ shown failure?, Peer.display m.sender = .ok shown ∧
      response.filter Event.told =
        ((s.called item).piece m).account s.endpoint.id s.context shown failure?)
    (ho : next.offered = ((s.called item).taken m).offered)
    (hn : Onward s next) (h : Read next t xs ending) :
    ∃ xs ending,
      Read s (s.approach item ++ ((s.called item).arrival m ++ response) ++ t) xs ending := by
  obtain ⟨shown, failure?, hs, hr⟩ := hresponse
  let x : Reading := ⟨s.approach item, (s.called item).piece m, response, failure?⟩
  have hx : x.Answered s.endpoint.id s.context :=
    ⟨lull_approach hf, (s.called item).length_piece_le m, shown, hs, hr⟩
  have htrace : x.trace s.endpoint.id s.context.room =
      s.approach item ++ ((s.called item).arrival m ++ response) := by
    rw [arrival, id_called, Reading.trace, List.append_assoc]
    rfl
  rw [← htrace]
  refine ⟨x :: xs, ending, h.reading hx hn ?_⟩
  rw [offered_of_message hroom hf hd, ho]

theorem display_of_told (hu : ∀ f, ¬ Untold f s.endpoint.script)
    (hf : s.poll.found = .ready item) (hd : item.delivery = .ok m) :
    ∃ shown, Peer.display m.sender = .ok shown := by
  cases hp : Peer.display m.sender with
  | ok shown => exact ⟨shown, rfl⟩
  | error f =>
    have hs := (wait_of_ready hf).2.1
    exact absurd ⟨item, hs ▸ List.mem_cons_self, m, Item.payload_of_delivery hd, hp⟩ (hu f)

theorem read_again (hturn : s.turn = .again trace next) (hroom : 0 < s.context.room)
    (hu : ∀ f, ¬ Untold f s.endpoint.script) (h : Read next t xs ending) :
    ∃ xs ending, Read s (trace ++ t) xs ending := by
  have hn := onward_again hturn
  cases step_again hturn with
  | idle hc hf => exact (h.of_onward hn (offered_of_idle hf)).lull (lull_idle hf)
  | @again item rest next hc hf hr =>
    -- A call that finds nothing yet is a lull; every other receipt is one more reading, answered as
    -- the case of its account says.
    cases hr with
    | @retried e hd ht =>
      have ho : s.offered = (s.called item).offered := by
        rw [offered_of_ready hf, hd]
        simp only [ht, if_true]
        rfl
      refine (h.of_onward hn ho).lull fun x hx => ?_
      rcases List.mem_append.1 hx with hx | hx
      · exact lull_approach hf x hx
      · rw [List.mem_singleton] at hx
        subst hx
        simp [isLull, ht]
    | @notified m hd hm =>
      obtain ⟨shown, hs⟩ := display_of_told hu hf hd
      refine read_piece hroom hf hd ⟨shown, none, hs, ?_⟩ rfl hn h
      rw [Piece.account, if_pos hm, Trace.filter_told_debug]
    | @closed m hd hm he =>
      obtain ⟨shown, hs⟩ := display_of_told hu hf hd
      refine read_piece hroom hf hd ⟨shown, none, hs, ?_⟩ rfl hn h
      rw [Piece.account, hm, if_neg Bool.false_ne_true, if_pos he, Trace.filter_told_console,
        console_line (by decide)]
    | @handled m hd hm he hr =>
      have hk := (s.called item).kept_taken m
      have hi : ((s.called item).taken m).endpoint.id = s.endpoint.id := s.id_polled
      obtain ⟨shown, hs, ha⟩ := account_handle hm he hr
      refine read_piece hroom hf hd ⟨shown, replyFailure ((s.called item).taken m).endpoint.sends,
        hs, ?_⟩ (offered_handle _ item _) hn h
      rw [ha, hi]
      exact Piece.account_kept hk _ _ _ _

theorem read_done {ran : Ran Mailbox Bool} (hturn : s.turn = .done ran)
    (hroom : 0 < s.context.room) (hu : ∀ f, ¬ Untold f s.endpoint.script) :
    Read s ran.trace [] ran.trace := by
  cases step_done hturn with
  | stopped hc =>
    refine .last (by simp) fun hq => ?_
    rcases hq.awake with ha | ha
    · simp [ha] at hc
    · simp [offered, Endpoint.brought, ha, brought]
  | @broken e hc hf =>
    have hw : s.poll.trace = _ := wait_of_broken hf
    refine .last (fun x hx => ?_) fun _ => by simp [offered, brought_of_broken hf]
    simp only [hw, Trace.speak, List.mem_append, List.mem_singleton] at hx
    rcases hx with (hx | rfl) | rfl
    · exact isLast_of_isLull (isLull_of_isStop (s.endpoint.isStop_beginning s.token x hx))
    · simp [isLast]
    · rfl
  | @refused f hc hf =>
    have hw : s.poll.trace = _ := (wait_of_refused hf).1
    refine .last (fun x hx => ?_) fun _ => by simp [offered, brought_of_refused hf]
    rw [hw] at hx
    exact isLast_of_isLull (isLull_of_isStop (s.endpoint.isStop_beginning s.token x hx))
  | @done item ran hc hf hr =>
    cases hr with
    | @failed e hd ht =>
      refine .last (fun x hx => ?_) fun _ => by simp [offered_of_ready hf, hd, ht]
      rcases List.mem_append.1 hx with hx | hx
      · exact isLast_of_isLull (lull_approach hf x hx)
      · simp only [Trace.speak, List.mem_append, List.mem_singleton] at hx
        rcases hx with rfl | rfl
        · simp [isLast]
        · rfl
    | stuck hd hz hm => exact absurd (show s.context.room = 0 from hz) (by omega)
    | @faulted m f hd hn he hr =>
      obtain ⟨shown, hs⟩ := display_of_told hu hf hd
      have hp : Peer.display m.sender = .error f := handle_error hr
      simp [hs] at hp

theorem read_runOnce (s : Mailbox) : 0 < s.context.room →
    (∀ f, ¬ Untold f s.endpoint.script) → ∃ xs ending, Read s s.runOnce.trace xs ending := by
  refine loop_induction (fun s ran => 0 < s.context.room →
    (∀ f, ¬ Untold f s.endpoint.script) → ∃ xs ending, Read s ran.trace xs ending) ?_ ?_ s
  · intro s ran hturn hroom hu
    exact ⟨[], ran.trace, read_done hturn hroom hu⟩
  · intro s trace next ran hturn ih hroom hu
    have hnext : 0 < next.context.room := by
      rw [(frame_again hturn).context.room]
      exact hroom
    obtain ⟨xs, ending, h⟩ := ih hnext fun f hf => hu f (untold_again hturn hf)
    exact read_again hturn hroom hu h

/-- The loop reads the pieces that are offered, in order, and answers each one before it waits
again; unless it is asked to stop it reads them all. Nothing but a timeout can make it raise. -/
theorem messages_answered (s : Mailbox) (hroom : 0 < s.context.room)
    (hr : ∀ i ∈ s.endpoint.script, ∀ m, i.payload? = some m → Peer.renders m.sender = true) :
    (∃ (xs : List Reading) (ending : Trace),
      s.runOnce.trace =
        xs.flatMap (Reading.trace s.endpoint.id s.context.room) ++ ending ∧
      (∀ x ∈ xs, x.Answered s.endpoint.id s.context) ∧
      (∀ e ∈ ending, isLast s.endpoint.id e = true) ∧
      xs.map Reading.piece <+: s.offered ∧
      (s.token.cancelled = false → (∀ i ∈ s.endpoint.script, i.quiet = true) →
        xs.map Reading.piece = s.offered)) ∧
    ∀ f, s.runOnce.result = .error f →
      Limit.ofValue s.context.config.pollTimeout.toValue = .error f := by
  have hu : ∀ f, ¬ Untold f s.endpoint.script := by
    rintro f ⟨i, hi, m, hm, hp⟩
    have h := hr i hi m hm
    simp [Peer.renders, hp, Except.isOk, Except.toBool] at h
  obtain ⟨xs, ending, h⟩ := s.read_runOnce hroom hu
  refine ⟨⟨xs, ending, h.trace, h.answered, h.ending, h.order, fun ha hq => ?_⟩, fun f hf => ?_⟩
  · exact h.whole ⟨.inl ha, hq⟩
  · rcases (s.verdict_runOnce hroom).faulted f hf with hl | hl
    · exact hl
    · exact absurd hl (hu f)

def crammed : Mailbox where
  token := Token.fresh
  endpoint := ⟨.server 0, [.delivering ⟨[104, 105, 106],
    .tuple [.text "192.0.2.10", .int 36412],
    [⟨sctp, DeliveryInfo.controlKind, List.replicate 32 1⟩], endOfRecord⟩], [], false⟩
  context := ⟨Config.usual, some (.server 0), [0, 0], .bool true, .bool true⟩

theorem messages_answered_crammed : ∃ xs : List Reading,
    (∀ x ∈ xs, x.Answered (.server 0) crammed.context) ∧
    xs.map (fun x => x.piece.data) = [[104, 105], [106]] := by
  have hrenders : ∀ i ∈ crammed.endpoint.script, ∀ m, i.payload? = some m →
      Peer.renders m.sender = true := by
    have hall : crammed.endpoint.script.all
        (fun i => i.payload?.all fun m => Peer.renders m.sender) = true := by decide +kernel
    intro i hi m hm
    simpa [hm] using List.all_eq_true.1 hall i hi
  obtain ⟨⟨xs, ending, -, ha, -, -, hw⟩, -⟩ := messages_answered crammed (by decide) hrenders
  refine ⟨xs, ha, ?_⟩
  have hbrought : crammed.endpoint.brought crammed.context.config.pollTimeout.toValue =
      crammed.endpoint.script.filterMap Item.payload? := rfl
  have hdata : crammed.offered.map Piece.data = [[104, 105], [106]] := by
    rw [offered, hbrought]
    simp [crammed, Context.room, Item.delivering, pieces, Piece.ofMessage]
  rw [← hdata, ← hw rfl (by decide), List.map_map]
  rfl

end

end Mailbox

end Messaging

end SctpProbe
