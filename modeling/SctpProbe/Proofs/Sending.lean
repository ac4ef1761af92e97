import SctpProbe.Proofs.Waiting
import SctpProbe.Stream.Echo
set_option autoImplicit false

namespace SctpProbe

namespace Network

variable {α : Type}

def Item.quiet (i : Item α) : Bool := i.stop?.isNone && i.signal?.isNone

theorem Token.strike_quiet {i : Item α} (h : i.quiet = true) (t : Token) (m : Moment) :
    t.strike i m = ([], t) := by
  simp only [Item.quiet, Bool.and_eq_true, Option.isNone_iff_eq_none] at h
  exact t.strike_of_quiet i m h.1 h.2

def Item.spares (i : Item α) : Bool :=
  i.stop? != some .send && i.signal?.all fun signal => signal.2 != .send

theorem Item.spares_of_quiet {i : Item α} (h : i.quiet = true) : i.spares = true := by
  simp only [quiet, Bool.and_eq_true, Option.isNone_iff_eq_none] at h
  simp [spares, h.1, h.2]

theorem Token.strike_spares {i : Item α} (h : i.spares = true) (t : Token) :
    t.strike i .send = ([], t) := by
  simp only [Item.spares, Bool.and_eq_true, bne_iff_ne] at h
  obtain ⟨hs, hn⟩ := h
  simp only [strike, stopAt, signalAt, if_neg hs]
  cases hi : i.signal? with
  | none => rfl
  | some signal =>
    have hm : signal.2 ≠ .send := by simpa [hi] using hn
    simp [hm]

def Event.isCall (id : SocketId) : Event → Bool
  | .sent s _ => s == id
  | .sendFailed s _ => s == id
  | _ => false

def Trace.sentOn (id : SocketId) (t : Trace) : List UInt8 :=
  t.flatMap fun
    | .sent s bytes => if s = id then bytes else []
    | _ => []

namespace Trace

variable (id : SocketId)

@[simp] theorem sentOn_nil : sentOn id [] = [] := rfl

@[simp] theorem sentOn_append (t u : Trace) : sentOn id (t ++ u) = sentOn id t ++ sentOn id u := by
  simp [sentOn]

@[simp] theorem sentOn_sent (bytes : List UInt8) (t : Trace) :
    sentOn id (.sent id bytes :: t) = bytes ++ sentOn id t := by
  simp [sentOn]

@[simp] theorem sentOn_sendFailed (e : SystemError) (t : Trace) :
    sentOn id (.sendFailed id e :: t) = sentOn id t := rfl

end Trace

/-- What can be said of parts of a run, with the token before and after them, and be put
together. -/
structure Composes (R : Token → Trace → Token → Prop) : Prop where
  nothing : ∀ t, R t [] t
  join : ∀ {a b c t u}, R a t b → R b u c → R a (t ++ u) c

/-- Whether a call takes bytes in the end: it may do so in parts or after a while. -/
def Send.smooth : Send → Bool
  | .accept _ => true
  | .block => true
  | .stall => false
  | .fail e => e.isTransient

end Network

namespace Stream

open Network

theorem settle_suffix (waiting : Bool) (sends : List Send) : settle waiting sends <:+ sends := by
  unfold settle
  split
  · split
    · exact List.suffix_cons _ _
    · exact List.suffix_refl _
  · exact List.suffix_refl _

/-- What a call shows that sends some of the bytes. -/
inductive Sends (id : SocketId) (bytes : List UInt8) : Event → Prop
  | sent {piece : List UInt8} (h : piece <:+: bytes) : Sends id bytes (.sent id piece)
  | failed (e : SystemError) : Sends id bytes (.sendFailed id e)

theorem Sends.of_suffix {id : SocketId} {later bytes : List UInt8} {e : Event}
    (h : later <:+ bytes) (k : Sends id later e) : Sends id bytes e := by
  cases k with
  | sent hp => exact .sent (hp.trans h.isInfix)
  | failed e => exact .failed e

section

variable {R : Token → Trace → Token → Prop} (hR : Composes R) {id : SocketId}
  {item : Item (List UInt8)} {bytes : List UInt8}

include hR

theorem composed_transmit (instant waiting : Bool) (sends : List Send) (token : Token)
    (hcall : ∀ t {e}, Sends id bytes e →
      R t ((t.strike item .send).1 ++ [e]) (t.strike item .send).2) :
    R token (transmit id item instant waiting sends token bytes).trace
      (transmit id item instant waiting sends token bytes).token := by
  have hwhole : ∀ {bytes}, Sends id bytes (.sent id bytes) := .sent (List.infix_refl _)
  induction sends generalizing waiting token bytes with
  | nil =>
    unfold transmit
    simp only
    split
    · exact hR.nothing _
    · exact hcall token hwhole
  | cons s rest ih =>
    unfold transmit
    simp only
    split
    · exact hR.nothing _
    · cases s with
      | stall =>
        simp only
        split
        · exact hR.nothing _
        · exact hcall token (.failed _)
      | accept count =>
        simp only
        split
        · exact hcall token hwhole
        · exact hR.join (hcall token (.sent (List.take_prefix _ _).isInfix))
            (ih _ _ fun t _ he => hcall t (he.of_suffix (List.drop_suffix _ _)))
      | block => exact hR.join (hcall token (.failed _)) (ih _ _ hcall)
      | fail e =>
        simp only
        split
        · exact hR.join (hcall token (.failed _)) (ih _ _ hcall)
        · exact hcall token (.failed _)

theorem composed_echo (sendTimeout : Value) (sends : List Send) (token : Token)
    (hnote : ∀ t level message, R t (Trace.speak level .stream message) t)
    (hcall : ∀ t {e}, Sends id bytes e →
      R t ((t.strike item .send).1 ++ [e]) (t.strike item .send).2) :
    R token (echo sendTimeout id item sends token bytes).trace
      (echo sendTimeout id item sends token bytes).token := by
  have hsend := fun instant => hR.join (hnote token .debug "Echoing data back")
    (composed_transmit hR instant false sends token hcall)
  unfold echo
  simp only
  split
  · exact hnote _ _ _
  · exact hR.join (hnote _ _ _) (hnote _ _ _)
  · split
    · exact hsend _
    · exact hR.join (hsend _) (hnote _ _ _)
    · split
      · exact hsend _
      · exact hR.join (hsend _) (hnote _ _ _)

end

structure Sent (id : SocketId) (sends : List Send) (token : Token) (bytes : List UInt8)
    (r : Transmission) : Prop where
  calls : ∀ e ∈ r.trace, e.isCall id = true
  token : r.token = token
  rest : r.sends <:+ sends
  part : r.trace.sentOn id <+: bytes
  whole : r.trace.sentOn id = bytes ↔ r.delivery = .whole

namespace Sent

variable {id : SocketId} {sends : List Send} {token : Token} {bytes : List UInt8}

theorem of_nothing {rest : List Send} {d : Delivery} (hb : bytes ≠ []) (hr : rest <:+ sends)
    (hd : d ≠ .whole) : Sent id sends token bytes ⟨[], token, rest, d⟩ :=
  ⟨by simp, rfl, hr, List.nil_prefix, by simp [hb.symm, hd]⟩

theorem of_failure {rest : List Send} {e : SystemError} {d : Delivery} (hb : bytes ≠ [])
    (hr : rest <:+ sends) (hd : d ≠ .whole) :
    Sent id sends token bytes ⟨[.sendFailed id e], token, rest, d⟩ :=
  ⟨by simp [Event.isCall], rfl, hr, by simp, by simp [hb.symm, hd]⟩

theorem of_all {rest : List Send} (hr : rest <:+ sends) :
    Sent id sends token bytes ⟨[.sent id bytes], token, rest, .whole⟩ :=
  ⟨by simp [Event.isCall], rfl, hr, by simp, by simp⟩

theorem of_part {s : Send} {count : Nat} {later : Transmission}
    (h : Sent id sends token (bytes.drop count) later) :
    Sent id (s :: sends) token bytes
      { later with trace := .sent id (bytes.take count) :: later.trace } := by
  have ht := List.take_append_drop count bytes
  have hp : (bytes.take count ++ later.trace.sentOn id) <+: bytes.take count ++ bytes.drop count :=
    (List.prefix_append_right_inj _).2 h.part
  rw [ht] at hp
  have hw : bytes.take count ++ later.trace.sentOn id = bytes ↔
      later.trace.sentOn id = bytes.drop count := by
    constructor
    · intro he
      rw [← List.append_cancel_left_eq (bytes.take count), ht]
      exact he
    · intro he
      rw [he, ht]
  refine ⟨?_, h.token, h.rest.trans (List.suffix_cons _ _), ?_, ?_⟩
  · intro e he
    rcases List.mem_cons.1 he with rfl | he
    · simp [Event.isCall]
    · exact h.calls e he
  · rw [Trace.sentOn_sent]
    exact hp
  · rw [Trace.sentOn_sent]
    exact hw.trans h.whole

theorem of_retry {s : Send} {e : SystemError} {later : Transmission}
    (h : Sent id sends token bytes later) :
    Sent id (s :: sends) token bytes
      { later with trace := .sendFailed id e :: later.trace } := by
  refine ⟨?_, h.token, h.rest.trans (List.suffix_cons _ _), h.part, h.whole⟩
  intro e' he
  rcases List.mem_cons.1 he with rfl | he
  · simp [Event.isCall]
  · exact h.calls e' he

end Sent

section

variable {item : Item (List UInt8)}

theorem sent_transmit (hq : item.spares = true) (id : SocketId) (instant waiting : Bool)
    (sends : List Send) (token : Token) {bytes : List UInt8} (hb : bytes ≠ []) :
    Sent id sends token bytes (transmit id item instant waiting sends token bytes) := by
  induction sends generalizing waiting bytes with
  | nil =>
    simp only [transmit, token.strike_spares hq]
    split
    · exact .of_nothing hb (settle_suffix _ _) (by simp)
    · exact .of_all (List.suffix_refl _)
  | cons s rest ih =>
    have hs := List.suffix_cons s rest
    have hset := (settle_suffix waiting rest).trans hs
    unfold transmit
    simp only [token.strike_spares hq, List.nil_append]
    split
    · exact .of_nothing hb (settle_suffix _ _) (by simp)
    · cases s with
      | stall =>
        simp only
        split
        · exact .of_nothing hb hs (by simp)
        · exact .of_failure hb hs (by simp)
      | accept count =>
        simp only
        split
        · exact .of_all hset
        · next hc =>
          have hd : bytes.drop count ≠ [] := by
            rw [Ne, List.drop_eq_nil_iff]
            exact hc
          exact .of_part (ih true hd)
      | block => exact .of_retry (ih true hb)
      | fail e =>
        simp only
        split
        · exact .of_retry (ih true hb)
        · exact .of_failure hb hset (by simp)

theorem stall_of_stalled {id : SocketId} {instant waiting : Bool} {sends : List Send}
    {token : Token}
    {bytes : List UInt8}
    (h : (transmit id item instant waiting sends token bytes).delivery = .stalled) :
    instant = true ∨ .stall ∈ sends := by
  induction sends generalizing waiting token bytes with
  | nil =>
    simp only [transmit] at h
    split at h
    · next hi => exact .inl (by simp_all)
    · simp at h
  | cons s rest ih =>
    unfold transmit at h
    simp only at h
    split at h
    · next hi => exact .inl (by simp_all)
    · cases s with
      | stall => exact .inr List.mem_cons_self
      | accept count =>
        simp only at h
        split at h
        · simp at h
        · exact (ih h).imp_right (List.mem_cons_of_mem _)
      | block => exact (ih h).imp_right (List.mem_cons_of_mem _)
      | fail e =>
        simp only at h
        split at h
        · exact (ih h).imp_right (List.mem_cons_of_mem _)
        · simp at h

theorem fail_of_failed {id : SocketId} {instant waiting : Bool} {sends : List Send} {token : Token}
    {bytes : List UInt8} {e : SystemError}
    (h : (transmit id item instant waiting sends token bytes).delivery = .failed e) :
    .fail e ∈ sends ∧ e.isTransient = false := by
  induction sends generalizing waiting token bytes with
  | nil =>
    simp only [transmit] at h
    split at h <;> simp at h
  | cons s rest ih =>
    unfold transmit at h
    simp only at h
    split at h
    · simp at h
    · cases s with
      | stall =>
        simp only at h
        split at h <;> simp at h
      | accept count =>
        simp only at h
        split at h
        · simp at h
        · exact (ih h).imp_left (List.mem_cons_of_mem _)
      | block => exact (ih h).imp_left (List.mem_cons_of_mem _)
      | fail e' =>
        simp only at h
        split at h
        · exact (ih h).imp_left (List.mem_cons_of_mem _)
        · next ht =>
          simp only [Delivery.failed.injEq] at h
          subst h
          exact ⟨List.mem_cons_self, Bool.eq_false_iff.2 ht⟩

def ample : Limit → Bool
  | .never => true
  | .running => true
  | .expired => false
  | .instant => false

def noted : Option String → Trace
  | none => []
  | some reason => failureNote reason

structure Echoes (limit : Limit) (id : SocketId) (sends : List Send) (token : Token)
    (bytes : List UInt8) (sending : Trace) (note? : Option String) (e : Echoed) : Prop where
  trace : e.trace = Trace.speak .debug .stream "Echoing data back" ++ sending ++ noted note?
  result : e.result = .ok ()
  token : e.token = token
  rest : e.sends <:+ sends
  calls : ∀ x ∈ sending, x.isCall id = true
  part : sending.sentOn id <+: bytes
  whole : sending.sentOn id = bytes ↔ note? = none
  smooth : ample limit = true → (∀ x ∈ sends, x.smooth = true) → note? = none

theorem echoes {sendTimeout : Value} {limit : Limit} {sends : List Send} {bytes : List UInt8}
    (hl : Limit.ofValue sendTimeout = .ok limit) (hn : limit = .never → .stall ∉ sends)
    (hq : item.spares = true) (hb : bytes ≠ []) (id : SocketId) (token : Token) :
    ∃ sending note?, Echoes limit id sends token bytes sending note?
      (echo sendTimeout id item sends token bytes) := by
  by_cases hexp : limit = .expired
  · subst hexp
    refine ⟨[], some "", ?_⟩
    have he : echo sendTimeout id item sends token bytes =
        ⟨Trace.speak .debug .stream "Echoing data back" ++ failureNote "", token, sends,
        .ok ()⟩ := by
      simp [echo, hl]
    rw [he]
    exact ⟨by simp [noted], rfl, rfl, List.suffix_refl _, by simp,
      List.nil_prefix, by simp [hb.symm],
      by simp [ample]⟩
  · have hs := sent_transmit hq id (limit = .instant) false sends token hb
    have hstall := @stall_of_stalled item id (limit = .instant) false sends token bytes
    have hfail := fun e => @fail_of_failed item id (limit = .instant) false sends token bytes e
    unfold echo
    rw [hl]
    split
    · next h => simp at h
    · next h => exact absurd (Except.ok.inj h) hexp
    next limit' hne h =>
    cases h
    generalize transmit id item (limit = .instant) false sends token bytes = r at hs hstall hfail
    simp only
    split
    · next hd =>
      refine ⟨r.trace, none, ?_⟩
      exact ⟨by simp [noted], rfl, hs.token, hs.rest, hs.calls, hs.part, by simp [hs.whole, hd],
        fun _ _ => rfl⟩
    · next e hd =>
      refine ⟨r.trace, some e.message, ?_⟩
      have hw : ¬ r.trace.sentOn id = bytes := by simp [hs.whole, hd]
      refine ⟨by simp [noted], rfl, hs.token, hs.rest, hs.calls, hs.part, by simp [hw],
        fun _ hsm => ?_⟩
      have hf := hfail e hd
      have := hsm _ hf.1
      simp [Send.smooth, hf.2] at this
    · next hd =>
      have hw : ¬ r.trace.sentOn id = bytes := by simp [hs.whole, hd]
      split
      · next hnev =>
        subst hnev
        rcases hstall hd with h | h
        · simp at h
        · exact absurd h (hn rfl)
      · refine ⟨r.trace, some "", ?_⟩
        refine ⟨by simp [noted], rfl, hs.token, hs.rest, hs.calls, hs.part, by simp [hw],
          fun ha hsm => ?_⟩
        rcases hstall hd with h | h
        · simp only [decide_eq_true_eq] at h
          simp [h, ample] at ha
        · have := hsm _ h
          simp [Send.smooth] at this

end

end Stream

end SctpProbe
