import SctpProbe.Messaging.Mailbox
import SctpProbe.Proofs.Waiting
set_option autoImplicit false

namespace SctpProbe.Messaging.Mailbox

open Network

def polled (s : Mailbox) : Mailbox := { s with token := s.poll.token, endpoint := s.poll.endpoint }

def called (s : Mailbox) (item : Item Message) : Mailbox :=
  { s.polled with token := (s.poll.token.strike item .call).2 }

def approach (s : Mailbox) (item : Item Message) : Trace :=
  s.poll.trace ++ (s.poll.token.strike item .call).1

def piece (s : Mailbox) (m : Message) : Piece := .ofMessage s.context.room m

def taken (s : Mailbox) (m : Message) : Mailbox :=
  { s with
    endpoint.script := restOf s.context.room m ++ s.endpoint.script
    context := s.context.store (s.piece m).data }

def arrival (s : Mailbox) (m : Message) : Trace :=
  [.receivedMessage s.endpoint.id s.context.room DeliveryInfo.controlRoom (s.piece m).data.length
    (s.piece m).flags]

@[simp] theorem script_polled (s : Mailbox) :
    s.polled.endpoint.script = s.endpoint.script.tail := by
  simp [polled, poll]

inductive Receipt (s : Mailbox) (item : Item Message) : Turn Mailbox Bool → Prop
  | retried {e : SystemError} (hd : item.delivery = .error e) (ht : e.isTransient = true) :
    Receipt s item (.again [.receiveMessageFailed s.endpoint.id e] s)
  | failed {e : SystemError} (hd : item.delivery = .error e) (ht : e.isTransient = false) :
    Receipt s item (.done ⟨[.receiveMessageFailed s.endpoint.id e] ++
      Trace.speak .error .message ("Error in recvmsg(): " ++ e.message), s, .ok false⟩)
  | stuck {m : Message} (hd : item.delivery = .ok m) (hr : s.context.room = 0) (hm : m.data ≠ []) :
    Receipt s item (.done ⟨s.arrival m, s.taken m, .error .endless⟩)
  | notified {m : Message} (hd : item.delivery = .ok m)
    (hn : marked notification (s.piece m).flags = true) :
    Receipt s item (.again (s.arrival m ++ Trace.speak .debug .message
      ("Skipping SCTP notification of " ++ toString (s.piece m).data.length ++ " bytes"))
      (s.taken m))
  | closed {m : Message} (hd : item.delivery = .ok m)
    (hn : marked notification (s.piece m).flags = false) (hc : (s.piece m).data = []) :
    Receipt s item (.again (s.arrival m ++ console "Connection closed by remote host") (s.taken m))
  | handled {m : Message} (hd : item.delivery = .ok m)
    (hn : marked notification (s.piece m).flags = false) (hc : (s.piece m).data ≠ [])
    (hr : ((s.taken m).handle item (s.piece m)).result = .ok ()) :
    Receipt s item (.again (s.arrival m ++ ((s.taken m).handle item (s.piece m)).trace)
      ((s.taken m).handle item (s.piece m)).state)
  | faulted {m : Message} {f : Fault} (hd : item.delivery = .ok m)
    (hn : marked notification (s.piece m).flags = false) (hc : (s.piece m).data ≠ [])
    (hr : ((s.taken m).handle item (s.piece m)).result = .error f) :
    Receipt s item (.done ⟨s.arrival m ++ ((s.taken m).handle item (s.piece m)).trace,
      ((s.taken m).handle item (s.piece m)).state, .error f⟩)

theorem receipt (s : Mailbox) (item : Item Message) : Receipt s item (s.receive item) := by
  unfold receive
  split
  · next m hd =>
    unfold takePiece
    simp only [Context.received_store]
    split
    · next h => exact .stuck hd h.1 h.2
    · split
      · next hn => exact .notified hd hn
      · next hn =>
        have h0 : marked notification (s.piece m).flags = false := Bool.eq_false_iff.2 hn
        split
        · next hc => exact .closed hd h0 (List.length_eq_zero_iff.1 hc)
        · next hc =>
          have hne : (s.piece m).data ≠ [] := fun h => hc (List.length_eq_zero_iff.2 h)
          split
          · next hr => exact .handled hd h0 hne hr
          · next f hr => exact .faulted hd h0 hne hr
  · next e hd =>
    simp only
    split
    · next ht => exact .retried hd ht
    · next ht => exact .failed hd (Bool.eq_false_iff.2 ht)

inductive Step (s : Mailbox) : Turn Mailbox Bool → Prop
  | stopped (h : s.token.cancelled = true) : Step s (.done ⟨[], s, .ok true⟩)
  | broken {e : SystemError} (h : s.token.cancelled = false) (hf : s.poll.found = .broken e) :
    Step s (.done ⟨s.poll.trace ++
      Trace.speak .error .message ("Error while waiting for data: " ++ e.message), s.polled,
        .ok false⟩)
  | refused {f : Fault} (h : s.token.cancelled = false) (hf : s.poll.found = .refused f) :
    Step s (.done ⟨s.poll.trace, s.polled, .error f⟩)
  | idle (h : s.token.cancelled = false) (hf : s.poll.found = .idle) :
    Step s (.again s.poll.trace s.polled)
  | again {item : Item Message} {trace : Trace} {next : Mailbox} (h : s.token.cancelled = false)
    (hf : s.poll.found = .ready item) (hr : Receipt (s.called item) item (.again trace next)) :
    Step s (.again (s.approach item ++ trace) next)
  | done {item : Item Message} {ran : Ran Mailbox Bool} (h : s.token.cancelled = false)
    (hf : s.poll.found = .ready item) (hr : Receipt (s.called item) item (.done ran)) :
    Step s (.done (ran.after (s.approach item)))

theorem step (s : Mailbox) : Step s s.turn := by
  unfold turn
  split
  · next h => exact .stopped h
  · next h =>
    have h0 : s.token.cancelled = false := by simpa using h
    simp only
    split
    · next e hf => exact .broken h0 hf
    · next f hf => exact .refused h0 hf
    · next hf => exact .idle h0 hf
    · next item hf =>
      have hr := (s.called item).receipt item
      change Step s (((s.called item).receive item).after (s.approach item))
      cases ht : (s.called item).receive item with
      | again trace next =>
        rw [ht] at hr
        exact .again h0 hf hr
      | done ran =>
        rw [ht] at hr
        exact .done h0 hf hr

theorem step_again {s next : Mailbox} {trace : Trace} (h : s.turn = .again trace next) :
    Step s (.again trace next) := h ▸ s.step

theorem step_done {s : Mailbox} {ran : Ran Mailbox Bool} (h : s.turn = .done ran) :
    Step s (.done ran) := h ▸ s.step

inductive Handling (s : Mailbox) (item : Item Message) (p : Piece) : Ran Mailbox Unit → Prop
  | unshown {f : Fault} (h : Peer.display p.sender = .error f) :
    Handling s item p
      ⟨Trace.speak .debug .message ("Received " ++ toString p.data.length ++ " bytes"), s, .error f⟩
  | reported {shown : String} (h : Peer.display p.sender = .ok shown)
      (he : s.context.echo.truthy = false) :
    Handling s item p
      ⟨Trace.speak .debug .message ("Received " ++ toString p.data.length ++ " bytes") ++
        report s.context p shown, s, .ok ()⟩
  | echoed {shown : String} (h : Peer.display p.sender = .ok shown)
      (he : s.context.echo.truthy = true) :
    Handling s item p ((s.echo item p (informed p.control).2).after
      (Trace.speak .debug .message ("Received " ++ toString p.data.length ++ " bytes") ++
        report s.context p shown))

def noted : Option SystemError → Trace
  | some e => failureNote e.message
  | none => []

theorem echo_eq (s : Mailbox) (item : Item Message) {p : Piece} {info? : Option DeliveryInfo}
    {control : List ControlMessage} (hs : p.sender.truthy = true)
    (hr : DeliveryInfo.reply info? = .ok control) :
    s.echo item p info? =
      ⟨Trace.speak .debug .message "Echoing data back" ++ (s.token.strike item .send).1 ++
        [.sentMessage s.endpoint.id p.data control 0 p.sender (replyFailure s.endpoint.sends)] ++
        noted (replyFailure s.endpoint.sends),
      { s with
        token := (s.token.strike item .send).2
        endpoint.sends := s.endpoint.sends.drop 1 }, .ok ()⟩ := by
  unfold echo
  simp only [hs, hr]
  cases replyFailure s.endpoint.sends <;> rfl

theorem handling (s : Mailbox) (item : Item Message) (p : Piece) :
    Handling s item p (s.handle item p) := by
  unfold handle
  simp only
  split
  · next f h => exact .unshown h
  · next shown h =>
    split
    · next he => exact .echoed h he
    · next he => exact .reported h (Bool.eq_false_iff.2 he)

theorem script_handle (s : Mailbox) (item : Item Message) (p : Piece) :
    (s.handle item p).state.endpoint.script = s.endpoint.script := (s.handle_state item p).1

theorem mem_restOf {room : Nat} {m : Message} {i : Item Message} (h : i ∈ restOf room m) :
    ∃ rest, rest ≠ [] ∧ i = .delivering { m with data := rest } := by
  unfold restOf at h
  split at h
  · simp at h
  · next hrest => exact ⟨_, hrest, List.mem_singleton.1 h⟩

theorem items_again {P : Item Message → Prop}
    (rest : ∀ i m data, P i → i.payload? = some m → data ≠ [] →
      P (.delivering { m with data := data }))
    {s next : Mailbox} {trace : Trace} (h : s.turn = .again trace next)
    (hs : ∀ i ∈ s.endpoint.script, P i) : ∀ i ∈ next.endpoint.script, P i := by
  have hpolled : ∀ i ∈ s.polled.endpoint.script, P i := fun i hi =>
    hs i (List.mem_of_mem_tail (s.script_polled ▸ hi))
  cases step_again h with
  | idle => exact hpolled
  | @again item _ _ hc hf hr =>
    have hitem : P item := hs item ((wait_of_ready hf).2.1 ▸ List.mem_cons_self)
    have htaken : ∀ m, item.delivery = .ok m →
        ∀ i ∈ ((s.called item).taken m).endpoint.script, P i := by
      intro m hd i hi
      rcases List.mem_append.1 hi with hi | hi
      · obtain ⟨data, hne, rfl⟩ := mem_restOf hi
        exact rest item m data hitem (Item.payload_of_delivery hd) hne
      · exact hpolled i hi
    cases hr with
    | retried => exact hpolled
    | notified hd => exact htaken _ hd
    | closed hd => exact htaken _ hd
    | handled hd =>
      rw [script_handle]
      exact htaken _ hd

end SctpProbe.Messaging.Mailbox
