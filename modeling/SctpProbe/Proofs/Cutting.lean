import SctpProbe.Proofs.Answers.Offer
import SctpProbe.Proofs.Failing
set_option autoImplicit false

namespace SctpProbe

open Network

namespace Network

def Event.isExchange : Event → Bool
  | .receivedMessage .. => true
  | .sentMessage .. => true
  | _ => false

def Event.returned : Event → List UInt8
  | .sentMessage _ data _ _ _ _ => data
  | _ => []

theorem Event.told_of_isExchange {e : Event} (h : e.isExchange = true) : e.told = true := by
  cases e <;> first | rfl | cases h

theorem Event.returned_of_not_isExchange {e : Event} (h : e.isExchange = false) :
    e.returned = [] := by
  cases e <;> first | rfl | cases h

namespace Trace

theorem filter_isExchange_told (t : Trace) :
    (t.filter Event.told).filter Event.isExchange = t.filter Event.isExchange := by
  rw [List.filter_filter]
  refine List.filter_congr fun e _ => ?_
  cases h : e.isExchange with
  | false => rfl
  | true => exact Event.told_of_isExchange h

theorem flatMap_returned_exchange (t : Trace) :
    (t.filter Event.isExchange).flatMap Event.returned = t.flatMap Event.returned := by
  induction t with
  | nil => rfl
  | cons e t ih =>
    rw [List.filter_cons]
    cases h : e.isExchange with
    | false => simp [Event.returned_of_not_isExchange h, ih]
    | true => simp [ih]

theorem filter_isExchange_console (text : String) :
    (console text).filter Event.isExchange = [] := by
  simp [console, List.filter_eq_nil_iff, Event.isExchange]

end Trace

end Network

namespace Messaging

/-- The mark of the end of a message can be taken away, and no other mark goes with it. -/
theorem marked_unmarked {flags : Int} (h : marked endOfRecord flags = true) :
    marked endOfRecord (unmarked endOfRecord flags) = false ∧
      marked notification (unmarked endOfRecord flags) = marked notification flags := by
  simp only [unmarked, h, if_true]
  simp only [marked, endOfRecord, notification, beq_iff_eq] at h ⊢
  have hend : (flags - 0x80) / 0x80 % 2 = 0 := by omega
  have hnote : (flags - 0x80) / 0x8000 = flags / 0x8000 := by omega
  rw [hend, hnote]
  exact ⟨rfl, rfl⟩

/-- How many reads a message takes. -/
def parts (room : Nat) (m : Message) : Nat := (m.data.length + room - 1) / room

/-- The piece of a message with a given number, from zero. -/
def cut (room : Nat) (m : Message) (k : Nat) : Piece :=
  ⟨(m.data.drop (k * room)).take room, m.sender, m.control,
    if k + 1 < parts room m then unmarked endOfRecord m.flags else m.flags⟩

section

variable {room : Nat} {m : Message}

theorem lt_parts (h : 0 < room) (k : Nat) : k < parts room m ↔ k * room < m.data.length := by
  have hmul : (k + 1) * room = k * room + room := Nat.succ_mul k room
  rw [parts, ← Nat.succ_le_iff, Nat.le_div_iff_mul_le h, Nat.succ_eq_add_one, hmul]
  omega

theorem parts_pos (h : 0 < room) (hm : m.data ≠ []) : 0 < parts room m := by
  rw [lt_parts h, Nat.zero_mul]
  exact List.length_pos_iff.2 hm

theorem parts_rest (h : 0 < room) (hm : room < m.data.length) :
    parts room m = parts room { m with data := m.data.drop room } + 1 := by
  rw [parts, parts, List.length_drop, ← Nat.add_div_right _ h]
  congr 1
  omega

theorem cut_zero (h : 0 < room) (m : Message) : cut room m 0 = .ofMessage room m := by
  have hone : 0 + 1 < parts room m ↔ room < m.data.length := by rw [lt_parts h, Nat.one_mul]
  simp only [cut, Piece.ofMessage, hone, Nat.zero_mul, List.drop_zero]

/-- All further pieces are those of the rest. -/
theorem cut_succ (h : 0 < room) (hm : room < m.data.length) (k : Nat) :
    cut room m (k + 1) = cut room { m with data := m.data.drop room } k := by
  have hdrop : (k + 1) * room = room + k * room := by rw [Nat.succ_mul, Nat.add_comm]
  simp only [cut, parts_rest h hm, List.drop_drop, hdrop, Nat.add_lt_add_iff_right]

theorem length_cut (h : 0 < room) {k : Nat} (hk : k + 1 < parts room m) :
    (cut room m k).data.length = room := by
  have hmul : (k + 1) * room = k * room + room := Nat.succ_mul k room
  rw [lt_parts h] at hk
  simp only [cut, List.length_take, List.length_drop]
  omega

theorem data_cut_ne_nil (h : 0 < room) {k : Nat} (hk : k < parts room m) :
    (cut room m k).data ≠ [] := by
  rw [lt_parts h] at hk
  refine List.ne_nil_of_length_pos ?_
  simp only [cut, List.length_take, List.length_drop]
  omega

theorem flatMap_cut (room : Nat) (m : Message) (k : Nat) :
    (List.range k).flatMap (fun i => (cut room m i).data) = m.data.take (k * room) := by
  induction k with
  | zero => simp
  | succ k ih =>
    rw [List.range_succ, List.flatMap_append, ih, List.flatMap_singleton, Nat.succ_mul,
      List.take_add]
    rfl

theorem flatMap_cut_parts (h : 0 < room) (m : Message) :
    (List.range (parts room m)).flatMap (fun i => (cut room m i).data) = m.data := by
  rw [flatMap_cut]
  refine List.take_of_length_le (Nat.le_of_not_lt fun hlt => ?_)
  exact absurd ((lt_parts h _).2 hlt) (Nat.lt_irrefl _)

end

namespace Mailbox

theorem flags_cut {room : Nat} {m : Message} {k : Nat} (he : marked endOfRecord m.flags = true) :
    marked notification (cut room m k).flags = marked notification m.flags := by
  simp only [cut]
  split
  · exact (marked_unmarked he).2
  · rfl

theorem cutNote_cut {room : Nat} {m : Message} {k : Nat} (he : marked endOfRecord m.flags = true) :
    cutNote room (cut room m k).flags =
      if k + 1 < parts room m then
        Trace.speak .warning .message ("Message did not fit into the " ++ toString room ++
          " byte receive buffer, the rest follows in the next read")
      else [] := by
  simp only [cut, cutNote]
  split
  · rw [(marked_unmarked he).1, if_neg Bool.false_ne_true]
  · rfl

/-- What is told about a piece of a message and sent back, from the wait for it to the next one. -/
def share (s : Mailbox) (m : Message) (shown : String) (k : Nat) : Trace :=
  let room := s.context.room
  let p := cut room m k
  [.waited s.endpoint.id s.context.config.pollTimeout.toValue .ready,
    .receivedMessage s.endpoint.id room DeliveryInfo.controlRoom p.data.length p.flags] ++
  console ("Packet from " ++ shown ++ "  with " ++ toString p.data.length ++ " bytes of data") ++
  (if k + 1 < parts room m then
    Trace.speak .warning .message ("Message did not fit into the " ++ toString room ++
      " byte receive buffer, the rest follows in the next read")
  else []) ++
  p.details s.context.verbose.truthy ++
  console (HexDump.text "Received data" HexDump.usualWidth p.data) ++
  (if s.context.echo.truthy then
    p.returned s.endpoint.id (replyFailure (s.endpoint.sends.drop k))
  else [])

/-- A share is the account of its piece, between the wait for it and the next one. -/
theorem share_eq {s : Mailbox} {m : Message} {k : Nat} (hroom : 0 < s.context.room)
    (hk : k < parts s.context.room m) (he : marked endOfRecord m.flags = true)
    (hn : marked notification m.flags = false) (shown : String) :
    s.share m shown k =
      [.waited s.endpoint.id s.context.config.pollTimeout.toValue .ready,
        .receivedMessage s.endpoint.id s.context.room DeliveryInfo.controlRoom
          (cut s.context.room m k).data.length (cut s.context.room m k).flags] ++
      (cut s.context.room m k).account s.endpoint.id s.context shown
        (replyFailure (s.endpoint.sends.drop k)) := by
  have hnote : marked notification (cut s.context.room m k).flags = false :=
    (flags_cut he).trans hn
  rw [Piece.account, hnote, if_neg Bool.false_ne_true, if_neg (data_cut_ne_nil hroom hk),
    cutNote_cut he, share]
  simp only [List.append_assoc]

/-- What a read of a message leaves for the next turn. -/
structure Passage (s : Mailbox) (m : Message) (next : Mailbox) : Prop where
  id : next.endpoint.id = s.endpoint.id
  context : s.context.Kept next.context
  script : next.endpoint.script = restOf s.context.room m ++ s.endpoint.script.tail
  shut : next.endpoint.shut = s.endpoint.advanced.shut
  sends : next.endpoint.sends =
    if s.context.echo.truthy && m.sender.truthy then s.endpoint.sends.drop 1 else s.endpoint.sends

section

variable {s next : Mailbox} {item : Item Message} {m : Message} {shown : String}

/-- Handling a piece takes nothing from a socket but the answer to a reply. -/
theorem endpoint_handle (s : Mailbox) (item : Item Message) {p : Piece}
    (h : Peer.display p.sender = .ok shown) :
    (s.handle item p).state.endpoint = { s.endpoint with
      sends := if s.context.echo.truthy && p.sender.truthy then s.endpoint.sends.drop 1
        else s.endpoint.sends } := by
  have hh := s.handling item p
  generalize s.handle item p = ran at hh ⊢
  cases hh with
  | unshown hs => simp [h] at hs
  | reported _ he => simp [he]
  | echoed _ he =>
    cases hs : p.sender.truthy with
    | false => simp [echo, hs]
    | true =>
      rw [Ran.state_after, s.echo_eq item hs p.reply_carried]
      simp [he]

theorem sends_taken (s : Mailbox) (item : Item Message) (m : Message) :
    ((s.called item).taken m).endpoint.sends = s.endpoint.sends := by
  change s.poll.endpoint.sends = s.endpoint.sends
  rw [poll, endpoint_wait, Endpoint.sends_advanced]

theorem passage_handle (s : Mailbox) (item : Item Message)
    (h : Peer.display m.sender = .ok shown) :
    Passage s m (((s.called item).taken m).handle item ((s.called item).piece m)).state := by
  have hcontext : s.context.Kept ((s.called item).taken m).context := (s.called item).kept_taken m
  have hendpoint := endpoint_handle ((s.called item).taken m) item
    (p := (s.called item).piece m) h
  refine ⟨?_, hcontext.trans (frame_handle _ _ _).context, ?_, ?_, ?_⟩
  · rw [hendpoint]
    exact s.id_polled
  · rw [hendpoint]
    exact congrArg (restOf s.context.room m ++ ·) s.script_polled
  · rw [hendpoint]
    change s.poll.endpoint.shut = s.endpoint.advanced.shut
    rw [poll, endpoint_wait]
  · rw [hendpoint, hcontext.echo, sends_taken]
    rfl

theorem flags_piece (he : marked endOfRecord m.flags = true) :
    marked notification (s.piece m).flags = marked notification m.flags := by
  simp only [piece, Piece.ofMessage]
  split
  · exact (marked_unmarked he).2
  · rfl

theorem told_approach (hf : s.poll.found = .ready item) :
    (s.approach item).filter Event.told =
      [.waited s.endpoint.id s.context.config.pollTimeout.toValue .ready] := by
  have hw : s.poll.trace = _ := (wait_of_ready hf).1
  have hbegin : (s.endpoint.beginning s.token).1.filter Event.told = [] := by
    rw [List.filter_eq_nil_iff]
    intro e he
    have h := s.endpoint.isStop_beginning s.token e he
    cases e <;> simp_all [Event.told, Event.isStop]
  rw [approach, hw, List.filter_append, List.filter_append, hbegin, Trace.filter_told_strike]
  rfl

/-- A message whose turn it is: it has data, it ends here, and it can be told where it is from. -/
structure Due (s : Mailbox) (item : Item Message) (m : Message) (shown : String) : Prop where
  awake : s.token.cancelled = false
  found : s.poll.found = .ready item
  delivery : item.delivery = .ok m
  data : m.data ≠ []
  ends : marked endOfRecord m.flags = true
  message : marked notification m.flags = false
  shown : Peer.display m.sender = .ok shown

theorem data_piece_ne_nil (hroom : 0 < s.context.room) (hm : m.data ≠ []) :
    (s.piece m).data ≠ [] := by
  simp only [piece, Piece.ofMessage, ne_eq, List.take_eq_nil_iff, not_or]
  exact ⟨by omega, hm⟩

theorem turn_of_due (hroom : 0 < s.context.room) (h : Due s item m shown) :
    s.turn = .again (s.approach item ++ ((s.called item).arrival m ++
      (((s.called item).taken m).handle item ((s.called item).piece m)).trace))
      (((s.called item).taken m).handle item ((s.called item).piece m)).state := by
  have hnote : marked notification ((s.called item).piece m).flags = false :=
    (flags_piece h.ends).trans h.message
  have hdata : ((s.called item).piece m).data ≠ [] := data_piece_ne_nil hroom h.data
  have hsole {m' : Message} (hd : item.delivery = .ok m') : m' = m :=
    Except.ok.inj (hd.symm.trans h.delivery)
  have hstep := s.step
  generalize s.turn = turn at hstep ⊢
  cases hstep with
  | stopped hc => simp [h.awake] at hc
  | broken _ hf => simp [h.found] at hf
  | refused _ hf => simp [h.found] at hf
  | idle _ hf => simp [h.found] at hf
  | again _ hf hr =>
    rw [h.found, Found.ready.injEq] at hf
    subst hf
    cases hr with
    | retried hd => simp [h.delivery] at hd
    | notified hd hn =>
      rw [hsole hd, hnote] at hn
      cases hn
    | closed hd _ hc =>
      rw [hsole hd] at hc
      exact absurd hc hdata
    | handled hd =>
      rw [hsole hd]
  | done _ hf hr =>
    rw [h.found, Found.ready.injEq] at hf
    subst hf
    cases hr with
    | failed hd => simp [h.delivery] at hd
    | stuck _ hz =>
      have hz : s.context.room = 0 := hz
      omega
    | faulted hd _ _ hr =>
      have hshown := handle_error hr
      rw [hsole hd] at hshown
      have hp : Peer.display m.sender = .error _ := hshown
      simp [h.shown] at hp

theorem result_handle (s : Mailbox) (item : Item Message) {p : Piece}
    (h : Peer.display p.sender = .ok shown) : (s.handle item p).result = .ok () := by
  cases hr : (s.handle item p).result with
  | ok _ => rfl
  | error f => simp [handle_error hr] at h

theorem told_of_due (hroom : 0 < s.context.room) (h : Due s item m shown) :
    (s.approach item ++ ((s.called item).arrival m ++
      (((s.called item).taken m).handle item ((s.called item).piece m)).trace)).filter
        Event.told = s.share m shown 0 := by
  have hkept : s.context.Kept ((s.called item).taken m).context := (s.called item).kept_taken m
  have hid := s.id_called item
  have hid' : ((s.called item).taken m).endpoint.id = s.endpoint.id := s.id_polled
  have hsends := s.sends_taken item m
  have hnote : marked notification ((s.called item).piece m).flags = false :=
    (flags_piece h.ends).trans h.message
  have hdata : ((s.called item).piece m).data ≠ [] := data_piece_ne_nil hroom h.data
  obtain ⟨shown', hs, ha⟩ := account_handle hnote hdata
    (result_handle ((s.called item).taken m) item h.shown)
  obtain rfl : shown' = shown := Except.ok.inj (hs.symm.trans h.shown)
  rw [List.filter_append, List.filter_append, told_approach h.found, ha,
    share_eq hroom (parts_pos hroom h.data) h.ends h.message, cut_zero hroom, hid', hsends,
    Piece.account_kept hkept, arrival, hid]
  rfl

/-- The shares of the rest of a message are the further shares of the message. -/
theorem share_succ (hroom : 0 < s.context.room) (hlong : s.context.room < m.data.length)
    (hp : Passage s m next) (shown : String) (k : Nat) :
    next.share { m with data := m.data.drop s.context.room } shown k =
      s.share m shown (k + 1) := by
  have hreply : (if s.context.echo.truthy then (cut s.context.room m (k + 1)).returned
        s.endpoint.id (replyFailure (next.endpoint.sends.drop k)) else []) =
      if s.context.echo.truthy then (cut s.context.room m (k + 1)).returned
        s.endpoint.id (replyFailure (s.endpoint.sends.drop (k + 1))) else [] := by
    rw [hp.sends]
    cases s.context.echo.truthy with
    | false => rfl
    | true =>
      -- Without a sender nothing is sent, and the failure does not matter.
      cases hs : m.sender.truthy with
      | false => simp [Piece.returned, cut, hs]
      | true => simp
  rw [share, share, hp.id, hp.context.room, hp.context.config, hp.context.verbose,
    hp.context.echo, ← cut_succ hroom hlong, hreply, parts_rest hroom hlong]
  simp only [Nat.add_lt_add_iff_right]

theorem awake_of_quiet (h : Due s item m shown) (hq : item.quiet = true) (p : Piece) :
    (((s.called item).taken m).handle item p).state.token.cancelled = false := by
  have hs := (wait_of_ready h.found).2.1
  rw [token_handle hq]
  change (s.poll.token.strike item .call).2.cancelled = false
  rw [Token.strike_quiet hq, poll, token_wait, Endpoint.beginning, hs]
  exact (congrArg (fun r => r.2.cancelled) (Token.strike_quiet hq _ _)).trans h.awake

/-- The rest of a message is due at once. -/
theorem due_rest (h : Due s item m shown) (hlong : s.context.room < m.data.length)
    (hp : Passage s m next) (hawake : next.token.cancelled = false) :
    next.endpoint.script =
      .delivering { m with data := m.data.drop s.context.room } :: s.endpoint.script.tail ∧
    Due next (.delivering { m with data := m.data.drop s.context.room })
      { m with data := m.data.drop s.context.room } shown := by
  obtain ⟨-, hs, hready⟩ := wait_of_ready h.found
  have hne : m.data.drop s.context.room ≠ [] := by
    rw [ne_eq, List.drop_eq_nil_iff]
    omega
  have hscript : next.endpoint.script =
      .delivering { m with data := m.data.drop s.context.room } :: s.endpoint.script.tail := by
    rw [hp.script, restOf]
    cases hd : m.data.drop s.context.room with
    | nil => exact absurd hd hne
    | cons b bs => rfl
  refine ⟨hscript, hawake, ?_, rfl, hne, h.ends, h.message, h.shown⟩
  rw [Endpoint.prospect, hs] at hready
  have hshut : next.endpoint.shut = (s.endpoint.shut || decide (item.poll = .closed)) := by
    rw [hp.shut, Endpoint.advanced, hs]
  rw [poll, wait_eq, Endpoint.prospect, hscript]
  simp only [hshut, hp.context.config, ready_again hready]
  rfl

theorem filter_isExchange_details (p : Piece) (verbose : Bool) :
    (p.details verbose).filter Event.isExchange = [] := by
  unfold Piece.details
  split
  · rfl
  · split
    · rfl
    · split
      · simp [List.filter_eq_nil_iff, Event.isExchange]
      · rfl

theorem filter_isExchange_returned (p : Piece) (id : SocketId) (failure? : Option SystemError) :
    (p.returned id failure?).filter Event.isExchange =
      if p.sender.truthy then [.sentMessage id p.data p.replyControl 0 p.sender failure?]
      else [] := by
  unfold Piece.returned
  split
  · cases failure? <;> rfl
  · rfl

/-- The traffic of a share: one read, and one reply if replies are wanted and the sender is known.
-/
theorem filter_isExchange_share (s : Mailbox) (m : Message) (shown : String) (k : Nat) :
    (s.share m shown k).filter Event.isExchange =
      .receivedMessage s.endpoint.id s.context.room DeliveryInfo.controlRoom
        (cut s.context.room m k).data.length (cut s.context.room m k).flags ::
      if s.context.echo.truthy && m.sender.truthy then
        [.sentMessage s.endpoint.id (cut s.context.room m k).data
          (cut s.context.room m k).replyControl 0 m.sender
          (replyFailure (s.endpoint.sends.drop k))]
      else [] := by
  have hnote (p : Prop) [Decidable p] (text : String) :
      (if p then Trace.speak .warning .message text else []).filter Event.isExchange = [] := by
    split <;> rfl
  rw [share]
  simp only [List.filter_append, Trace.filter_isExchange_console, hnote,
    filter_isExchange_details]
  cases s.context.echo.truthy with
  | false => rfl
  | true =>
    simp only [if_true, filter_isExchange_returned, Bool.true_and]
    rfl

/-- A message that is due is read in all its pieces, unless a request to stop came with it. -/
theorem shares_of_due (s : Mailbox) (item : Item Message) (m : Message) (shown : String)
    (hroom : 0 < s.context.room) (h : Due s item m shown) :
    ∃ (k : Nat) (t : Trace) (next : Mailbox), s.runOnce = next.runOnce.after t ∧
      s.context.Kept next.context ∧
      t.filter Event.told = (List.range k).flatMap (s.share m shown) ∧
      (k = parts s.context.room m ∧ next.endpoint.script = s.endpoint.script.tail ∨
        k = 1 ∧ item.quiet = false ∧ next.token.cancelled = true) := by
  have hturn := turn_of_due hroom h
  have htold := told_of_due hroom h
  have hp := passage_handle s item h.shown
  have hawake (hq : item.quiet = true) := awake_of_quiet h hq ((s.called item).piece m)
  generalize (((s.called item).taken m).handle item ((s.called item).piece m)).state = next
    at hturn hp hawake
  generalize s.approach item ++ ((s.called item).arrival m ++
    (((s.called item).taken m).handle item ((s.called item).piece m)).trace) = t at hturn htold
  have hrun : s.runOnce = next.runOnce.after t := by
    rw [runOnce, loop_eq, hturn]
    rfl
  by_cases hlong : s.context.room < m.data.length
  · cases hc : next.token.cancelled with
    | true =>
      refine ⟨1, t, next, hrun, hp.context, by simpa using htold, .inr ⟨rfl, ?_, hc⟩⟩
      cases hq : item.quiet with
      | false => rfl
      | true => simp [hawake hq] at hc
    | false =>
      obtain ⟨hscript, hdue⟩ := due_rest h hlong hp hc
      have hroom' : 0 < next.context.room := by rwa [hp.context.room]
      obtain ⟨k, u, last, hrest, hkept, hu, hend⟩ := shares_of_due next _ _ shown hroom' hdue
      -- nothing comes with the rest, so that it is read to its end
      rcases hend with ⟨hk, htail⟩ | ⟨-, hq, -⟩
      · refine ⟨k + 1, t ++ u, last, ?_, hp.context.trans hkept, ?_, .inl ⟨?_, ?_⟩⟩
        · rw [hrun, hrest, Ran.after, Ran.after, Ran.after, List.append_assoc]
        · rw [List.filter_append, htold, hu, funext (share_succ hroom hlong hp shown),
            List.range_succ_eq_map, List.flatMap_cons, List.flatMap_map]
        · rw [hk, hp.context.room, ← parts_rest hroom hlong]
        · rw [htail, hscript, List.tail_cons]
      · cases hq
  · have hone : parts s.context.room m = 1 := by
      have hpos := parts_pos hroom h.data
      have hmore : ¬ 1 < parts s.context.room m := by rwa [lt_parts hroom, Nat.one_mul]
      omega
    refine ⟨1, t, next, hrun, hp.context, by simpa using htold, .inl ⟨hone.symm, ?_⟩⟩
    rw [hp.script, restOf, List.drop_eq_nil_iff.2 (by omega)]
    rfl
termination_by m.data.length
decreasing_by
  simp only [List.length_drop]
  omega

end

/-- A message that is longer than the buffer is read in as many pieces as it takes, all but the last
one as long as the buffer, and each one is handled before the next one is read: it is noted that it
does not end the message, and it is sent back to where it came from. Together the replies are the
message, whatever the buffer. Only a request to stop that comes with the message keeps the loop from
what is left behind the first piece. -/
theorem message_cut {s : Mailbox} {item : Item Message} {m : Message} (hroom : 0 < s.context.room)
    (ha : s.token.cancelled = false) (hf : s.poll.found = .ready item)
    (hd : item.delivery = .ok m) (hdata : m.data ≠ []) (he : marked endOfRecord m.flags = true)
    (hn : marked notification m.flags = false) (hr : Peer.renders m.sender = true) :
    ∃ (shown : String) (control : List ControlMessage) (k : Nat) (t : Trace) (next : Mailbox),
      Peer.display m.sender = .ok shown ∧
      DeliveryInfo.reply (informed m.control).2 = .ok control ∧
      s.runOnce = next.runOnce.after t ∧ s.context.Kept next.context ∧
      (k = parts s.context.room m ∧ next.endpoint.script = s.endpoint.script.tail ∨
        k = 1 ∧ item.quiet = false ∧ next.token.cancelled = true) ∧
      t.filter Event.told = (List.range k).flatMap (s.share m shown) ∧
      t.filter Event.isExchange = (List.range k).flatMap (fun i =>
        .receivedMessage s.endpoint.id s.context.room DeliveryInfo.controlRoom
          (cut s.context.room m i).data.length (cut s.context.room m i).flags ::
        if s.context.echo.truthy && m.sender.truthy then
          [.sentMessage s.endpoint.id (cut s.context.room m i).data control 0 m.sender
            (replyFailure (s.endpoint.sends.drop i))]
        else []) ∧
      (∀ i, i + 1 < parts s.context.room m →
        (cut s.context.room m i).data.length = s.context.room) ∧
      (∀ i < parts s.context.room m, (cut s.context.room m i).data ≠ []) ∧
      (k = parts s.context.room m → s.context.echo.truthy = true → m.sender.truthy = true →
        t.flatMap Event.returned = m.data) := by
  obtain ⟨shown, hshown⟩ : ∃ shown, Peer.display m.sender = .ok shown := by
    cases hp : Peer.display m.sender with
    | ok shown => exact ⟨shown, rfl⟩
    | error f => simp [Peer.renders, hp, Except.isOk, Except.toBool] at hr
  obtain ⟨k, t, next, hrun, hkept, htold, hend⟩ :=
    shares_of_due s item m shown hroom ⟨ha, hf, hd, hdata, he, hn, hshown⟩
  have hexchange : t.filter Event.isExchange = (List.range k).flatMap (fun i =>
      (s.share m shown i).filter Event.isExchange) := by
    rw [← Trace.filter_isExchange_told, htold, List.filter_flatMap]
  simp only [filter_isExchange_share] at hexchange
  refine ⟨shown, (cut s.context.room m 0).replyControl, k, t, next, hshown,
    (cut s.context.room m 0).reply_carried, hrun, hkept, hend, htold, hexchange,
    fun i => length_cut hroom, fun i => data_cut_ne_nil hroom, fun hk hecho hsender => ?_⟩
  rw [← Trace.flatMap_returned_exchange, hexchange, hk, List.flatMap_assoc, hecho, hsender]
  refine Eq.trans ?_ (flatMap_cut_parts hroom m)
  congr 1
  funext i
  simp [Event.returned]

def parcel : Message :=
  ⟨[104, 105, 106, 107], .tuple [.text "192.0.2.10", .int 36412],
    [⟨sctp, DeliveryInfo.controlKind, List.replicate 32 1⟩], endOfRecord⟩

def slot : Mailbox where
  token := Token.fresh
  endpoint := ⟨.server 0, [.delivering parcel], [], false⟩
  context := ⟨Config.usual, some (.server 0), [0, 0], .bool true, .bool true⟩

theorem message_cut_parcel : ∃ (t : Trace) (next : Mailbox),
    slot.runOnce = next.runOnce.after t ∧ next.endpoint.script = [] ∧
    (t.filter Event.isExchange).length = 4 ∧ t.flatMap Event.returned = [104, 105, 106, 107] := by
  obtain ⟨shown, control, k, t, next, -, -, hrun, -, hend, -, hexchange, -, -, hdata⟩ :=
    @message_cut slot (.delivering parcel) parcel (by decide) rfl rfl rfl (by decide) (by decide)
      (by decide) (by decide +kernel)
  rcases hend with ⟨hk, hscript⟩ | ⟨-, hq, -⟩
  · have htwo : parts slot.context.room parcel = 2 := by decide
    refine ⟨t, next, hrun, hscript, ?_, hdata hk rfl rfl⟩
    rw [hexchange, hk, htwo]
    rfl
  · cases hq

def closing : Mailbox :=
  { slot with endpoint.script := [{ Item.delivering parcel with stop? := some .call }] }

/-- A request to stop that comes with a message keeps the loop from the rest of it. -/
theorem rest_of_stop : ¬ ∀ (s : Mailbox) (item : Item Message) (m : Message),
    0 < s.context.room → s.token.cancelled = false → s.poll.found = .ready item →
    item.delivery = .ok m → m.data ≠ [] → marked endOfRecord m.flags = true →
    marked notification m.flags = false → Peer.renders m.sender = true →
    ∃ (shown : String) (t : Trace) (next : Mailbox), s.runOnce = next.runOnce.after t ∧
      t.filter Event.told =
        (List.range (parts s.context.room m)).flatMap (s.share m shown) := by
  intro h
  obtain ⟨shown, t, next, hrun, htold⟩ := h closing
    { Item.delivering parcel with stop? := some .call } parcel (by decide) rfl rfl rfl (by decide)
    (by decide) (by decide) (by decide +kernel)
  have hall : (closing.runOnce.trace.filter Event.isExchange).length = 2 := by decide +kernel
  have htwo : parts closing.context.room parcel = 2 := by decide
  have hexchange : (t.filter Event.isExchange).length = 4 := by
    rw [← Trace.filter_isExchange_told, htold, htwo, List.filter_flatMap]
    simp only [filter_isExchange_share]
    rfl
  rw [hrun, Ran.trace_after, List.filter_append, List.length_append] at hall
  omega

end Mailbox

end Messaging

end SctpProbe
