import SctpProbe.Proofs.Waiting
import SctpProbe.Stream.Session
set_option autoImplicit false

namespace SctpProbe.Stream.Session

open Network

def polled (s : Session) : Session := { s with token := s.poll.token, endpoint := s.poll.endpoint }

def called (s : Session) (item : Item (List UInt8)) : Session :=
  { s.polled with token := (s.poll.token.strike item .call).2 }

def approach (s : Session) (item : Item (List UInt8)) : Trace :=
  s.poll.trace ++ (s.poll.token.strike item .call).1

@[simp] theorem script_polled (s : Session) :
    s.polled.endpoint.script = s.endpoint.script.tail := by
  simp [polled, poll]

def chunk (s : Session) (bytes : List UInt8) : List UInt8 := bytes.take s.context.room

def taken (s : Session) (bytes : List UInt8) : Session :=
  { s with
    endpoint.script := deferred s.context.room bytes ++ s.endpoint.script
    context := s.context.store (s.chunk bytes) }

def report (s : Session) (bytes : List UInt8) : Trace :=
  [.received s.endpoint.id s.context.room (s.chunk bytes).length] ++
    Trace.speak .info .stream ("Received " ++ toString (s.chunk bytes).length ++ " bytes") ++
    console (HexDump.text "Received data" HexDump.usualWidth (s.chunk bytes))

def reply (s : Session) (item : Item (List UInt8)) (bytes : List UInt8) : Echoed :=
  echo s.context.config.sendTimeout s.endpoint.id item s.endpoint.sends s.token (s.chunk bytes)

def replied (s : Session) (item : Item (List UInt8)) (bytes : List UInt8) : Session :=
  { s.taken bytes with
    token := (s.reply item bytes).token
    endpoint.sends := (s.reply item bytes).sends }

inductive Receipt (s : Session) (item : Item (List UInt8)) : Turn Session Bool → Prop
  | retried {e : SystemError} (hd : item.delivery = .error e) (ht : e.isTransient = true) :
    Receipt s item (.again [.receiveFailed s.endpoint.id e] s)
  | failed {e : SystemError} (hd : item.delivery = .error e) (ht : e.isTransient = false) :
    Receipt s item (.done ⟨[.receiveFailed s.endpoint.id e] ++
      Trace.speak .error .stream ("Error in recv(): " ++ e.message), s, .ok false⟩)
  | closed {bytes : List UInt8} (hd : item.delivery = .ok bytes) (hc : s.chunk bytes = []) :
    Receipt s item (.done ⟨[.received s.endpoint.id s.context.room 0] ++
      console "Connection closed by the remote host", s.taken bytes, .ok true⟩)
  | dumped {bytes : List UInt8} (hd : item.delivery = .ok bytes) (hc : s.chunk bytes ≠ [])
    (he : s.context.echo.truthy = false) :
    Receipt s item (.again (s.report bytes) (s.taken bytes))
  | echoed {bytes : List UInt8} (hd : item.delivery = .ok bytes) (hc : s.chunk bytes ≠ [])
    (he : s.context.echo.truthy = true) (hr : (s.reply item bytes).result = .ok ()) :
    Receipt s item (.again (s.report bytes ++ (s.reply item bytes).trace) (s.replied item bytes))
  | aborted {bytes : List UInt8} {f : Fault} (hd : item.delivery = .ok bytes)
      (hc : s.chunk bytes ≠ [])
    (he : s.context.echo.truthy = true) (hr : (s.reply item bytes).result = .error f) :
    Receipt s item (.done ⟨s.report bytes ++ (s.reply item bytes).trace, s.replied item bytes,
      .error f⟩)

theorem mem_deferred {room : Nat} {bytes : List UInt8} {i : Item (List UInt8)}
    (h : i ∈ deferred room bytes) :
    ∃ rest, rest ≠ [] ∧ rest <:+ bytes ∧ i = .delivering rest := by
  unfold deferred at h
  split at h
  · simp at h
  · next hrest => exact ⟨_, hrest, List.drop_suffix _ _, List.mem_singleton.1 h⟩

theorem receipt (s : Session) (item : Item (List UInt8)) : Receipt s item (s.receive item) := by
  unfold receive
  split
  · next bytes hd =>
    unfold takeChunk
    simp only [Context.received_store]
    split
    · next hc =>
      have h0 : s.chunk bytes = [] := List.length_eq_zero_iff.1 hc
      rw [hc]
      exact .closed hd h0
    · next hc =>
      have h0 : s.chunk bytes ≠ [] := fun h => hc (List.length_eq_zero_iff.2 h)
      split
      · next he =>
        split
        · next hr => exact .echoed hd h0 he hr
        · next f hr => exact .aborted hd h0 he hr
      · next he => exact .dumped hd h0 (Bool.eq_false_iff.2 he)
  · next e hd =>
    simp only
    split
    · next ht => exact .retried hd ht
    · next ht => exact .failed hd (by simpa using ht)

/-- The ways in which a turn can end. -/
inductive Step (s : Session) : Turn Session Bool → Prop
  | stopped (h : s.token.cancelled = true) : Step s (.done ⟨[], s, .ok true⟩)
  | broken {e : SystemError} (h : s.token.cancelled = false) (hf : s.poll.found = .broken e) :
    Step s (.done ⟨s.poll.trace ++
      Trace.speak .error .stream ("Error while waiting for data: " ++ e.message), s.polled,
        .ok false⟩)
  | refused {f : Fault} (h : s.token.cancelled = false) (hf : s.poll.found = .refused f) :
    Step s (.done ⟨s.poll.trace, s.polled, .error f⟩)
  | idle (h : s.token.cancelled = false) (hf : s.poll.found = .idle) :
    Step s (.again s.poll.trace s.polled)
  | again {item : Item (List UInt8)} {trace : Trace} {next : Session}
      (h : s.token.cancelled = false)
    (hf : s.poll.found = .ready item) (hr : Receipt (s.called item) item (.again trace next)) :
    Step s (.again (s.approach item ++ trace) next)
  | done {item : Item (List UInt8)} {ran : Ran Session Bool} (h : s.token.cancelled = false)
    (hf : s.poll.found = .ready item) (hr : Receipt (s.called item) item (.done ran)) :
    Step s (.done (ran.after (s.approach item)))

theorem step (s : Session) : Step s s.turn := by
  unfold turn
  split
  · next h => exact .stopped h
  · next h =>
    have h0 : s.token.cancelled = false := by simpa using h
    simp only
    split
    · next e hf => exact .broken h0 hf
    · next f hf => exact .refused h0 hf
    · next hf => exact .idle h0 hf
    · next item hf =>
      have hr := (s.called item).receipt item
      change Step s (((s.called item).receive item).after (s.approach item))
      cases ht : (s.called item).receive item with
      | again trace next =>
        rw [ht] at hr
        exact .again h0 hf hr
      | done ran =>
        rw [ht] at hr
        exact .done h0 hf hr

theorem step_again {s next : Session} {trace : Trace} (h : s.turn = .again trace next) :
    Step s (.again trace next) := h ▸ s.step

theorem step_done {s : Session} {ran : Ran Session Bool} (h : s.turn = .done ran) :
    Step s (.done ran) := h ▸ s.step

theorem items_again {P : Item (List UInt8) → Prop}
    (rest : ∀ i bytes data, P i → i.payload? = some bytes → data ≠ [] → data <:+ bytes →
      P (.delivering data))
    {s next : Session} {trace : Trace} (h : s.turn = .again trace next)
    (hs : ∀ i ∈ s.endpoint.script, P i) : ∀ i ∈ next.endpoint.script, P i := by
  have hpolled : ∀ i ∈ s.polled.endpoint.script, P i := fun i hi =>
    hs i (List.mem_of_mem_tail (s.script_polled ▸ hi))
  cases step_again h with
  | idle => exact hpolled
  | @again item _ _ hc hf hr =>
    have hitem : P item := hs item ((wait_of_ready hf).2.1 ▸ List.mem_cons_self)
    have htaken : ∀ bytes, item.delivery = .ok bytes →
        ∀ i ∈ ((s.called item).taken bytes).endpoint.script, P i := by
      intro bytes hd i hi
      rcases List.mem_append.1 hi with hi | hi
      · obtain ⟨data, hne, hsuffix, rfl⟩ := mem_deferred hi
        exact rest item bytes data hitem (Item.payload_of_delivery hd) hne hsuffix
      · exact hpolled i hi
    cases hr with
    | retried => exact hpolled
    | dumped hd => exact htaken _ hd
    | echoed hd => exact htaken _ hd

end SctpProbe.Stream.Session
