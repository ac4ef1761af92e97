import SctpProbe.Loop
import SctpProbe.Network.Token
set_option autoImplicit false

/-!
Waiting for a socket, and making the call after the wait. A wait takes one item from the script; if
there is none left, the script is at its end and the token is cancelled. Every wait therefore makes
what is left smaller (`remaining_wait_lt`).
-/

namespace SctpProbe.Network

/-- How long to wait: for ever, not at all, for less than a clock can tell, or for some time. -/
inductive Limit
  | never
  | expired
  | instant
  | running
  deriving DecidableEq, Repr

namespace Limit

def tick : Binary64 := Binary64.ofDecimal false 1 (-9)

/-- A number too large for a clock is a fault; a nan passes before anything can happen. -/
def ofNumber (n : Number) : Except Fault Limit :=
  if n.atMost 0 then .ok .expired
  else n.real.map fun x => if x = .nan ∨ x.compare? tick = some .lt then .instant else .running

def ofValue (v : Value) : Except Fault Limit :=
  match v with
  | .nothing => .ok .never
  | _ =>
    match Number.ofValue? v with
    | some n => ofNumber n
    | none => .error (.incomparable "<=" v.kindName "int")

theorem ofNumber_error {n : Number} {f : Fault} (h : ofNumber n = .error f) :
    f = .numberTooLarge := by
  unfold ofNumber at h
  split at h
  · simp at h
  · cases n with
    | bool b => simp [Number.real, Except.map] at h
    | float x => simp [Number.real, Except.map] at h
    | int k =>
      simp only [Number.real] at h
      split at h
      · simp only [Except.map, Except.error.injEq] at h
        exact h.symm
      · simp [Except.map] at h

theorem ofValue_toValue (n : Number) : ofValue n.toValue = ofNumber n := by
  cases n <;> rfl

theorem ofValue_never {v : Value} (h : ofValue v = .ok .never) : v = .nothing := by
  unfold ofValue at h
  split at h
  · rfl
  · split at h
    · next n hn =>
      unfold ofNumber at h
      split at h
      · simp at h
      · cases hr : n.real with
        | error f => simp [hr, Except.map] at h
        | ok x =>
          simp only [hr, Except.map, Except.ok.injEq] at h
          split at h <;> simp at h
    · simp at h

end Limit

variable {α : Type}

/-- What a wait leaves to be done: a call for which the socket is ready, another wait, or nothing. A
wait whose timeout is of no use is refused. -/
inductive Found (α : Type)
  | ready (item : Item α)
  | idle
  | broken (error : SystemError)
  | refused (fault : Fault)
  deriving Repr

def registration (shut : Bool) (i : Item α) : Option Outcome :=
  if shut ∨ i.poll = .closed then some (.failed .noDescriptor)
  else if i.poll = .interrupted then some .interrupted
  else if i.poll = .error then
    let e := i.error?.getD .bare
    some (if e.kind = .interrupted then .interrupted else .failed e)
  else none

def outcomeWithin (limit : Limit) (p : Poll) : Outcome :=
  if limit = .expired then .timedOut
  else match p with
    | .ready => .ready
    | .interruptedWait => .interrupted
    | _ => .timedOut

/-- What a wait reports for an item. The timeout is only looked at once the socket has been
registered. -/
def outcome (timeout : Value) (shut : Bool) (i : Item α) : Except Fault Outcome :=
  match registration shut i with
  | some o => .ok o
  | none => (Limit.ofValue timeout).map fun limit => outcomeWithin limit i.poll

def outcomeAtEnd (timeout : Value) (shut : Bool) : Except Fault Outcome :=
  if shut then .ok (.failed .noDescriptor) else (Limit.ofValue timeout).map fun _ => .timedOut

def Found.ofOutcome (item? : Option (Item α)) : Outcome → Found α
  | .ready => item?.elim .idle .ready
  | .timedOut => .idle
  | .interrupted => .idle
  | .failed e => .broken e

structure Waited (α : Type) where
  trace : Trace
  token : Token
  endpoint : Endpoint α
  found : Found α

def Waited.ofOutcome (before : Trace) (timeout : Value) (t : Token) (e : Endpoint α)
    (item? : Option (Item α)) : Except Fault Outcome → Waited α
  | .ok o => ⟨before ++ [.waited e.id timeout o], t, e, .ofOutcome item? o⟩
  | .error f => ⟨before, t, e, .refused f⟩

def wait (timeout : Value) (t : Token) (e : Endpoint α) : Waited α :=
  match e.script with
  | [] => .ofOutcome [.ended e.id] timeout t.cancel e none (outcomeAtEnd timeout e.shut)
  | i :: rest =>
    let struck := t.strike i .wait
    .ofOutcome struck.1 timeout struck.2
      { e with script := rest, shut := e.shut || decide (i.poll = .closed) } (some i)
      (outcome timeout e.shut i)

def waitOnce (timeout : Value) (t : Token) (e : Endpoint α) : Ran (Endpoint α) Unit :=
  let w := wait timeout t e
  ⟨w.trace, w.endpoint, match w.found with
    | .refused f => .error f
    | _ => .ok ()⟩

@[simp] theorem Waited.token_ofOutcome (before : Trace) (timeout : Value) (t : Token)
    (e : Endpoint α)
    (item? : Option (Item α)) (r : Except Fault Outcome) :
    (Waited.ofOutcome before timeout t e item? r).token = t := by
  cases r <;> rfl

@[simp] theorem Waited.endpoint_ofOutcome (before : Trace) (timeout : Value) (t : Token)
    (e : Endpoint α) (item? : Option (Item α)) (r : Except Fault Outcome) :
    (Waited.ofOutcome before timeout t e item? r).endpoint = e := by
  cases r <;> rfl

theorem Waited.found_ofOutcome_ready {before : Trace} {timeout : Value} {t : Token} {e : Endpoint α}
    {item? : Option (Item α)} {r : Except Fault Outcome} {i : Item α}
    (h : (Waited.ofOutcome before timeout t e item? r).found = .ready i) : item? = some i := by
  cases r with
  | error f => simp [Waited.ofOutcome] at h
  | ok o =>
    cases o <;> simp [Waited.ofOutcome, Found.ofOutcome] at h
    cases item? with
    | none => simp at h
    | some j => simpa using h

/-- What is left to be done before a loop over this socket has to end. -/
def remaining (size : α → Nat) (t : Token) (e : Endpoint α) : Nat := e.load size + t.weight

theorem remaining_wait_lt (size : α → Nat) (timeout : Value) (t : Token) (e : Endpoint α)
    (h : t.cancelled = false) :
    remaining size (wait timeout t e).token (wait timeout t e).endpoint < remaining size t e := by
  unfold wait
  split
  · simp [remaining, Token.weight, Token.cancel, h]
  · next i rest hs =>
    have hl := Endpoint.load_cons size hs
    have hw := Token.weight_strike_le t i .wait
    have hi : 1 ≤ i.load size := by simp [Item.load]
    simp only [Waited.token_ofOutcome, Waited.endpoint_ofOutcome, remaining] at *
    simp only [Endpoint.load] at *
    omega

theorem remaining_wait_ready (size : α → Nat) (timeout : Value) (t : Token) (e : Endpoint α)
    (i : Item α) (h : (wait timeout t e).found = .ready i) :
    remaining size (wait timeout t e).token (wait timeout t e).endpoint + i.load size ≤
      remaining size t e := by
  unfold wait at h ⊢
  split at h
  · have := Waited.found_ofOutcome_ready h
    simp at this
  · next j rest hs =>
    have hj := Waited.found_ofOutcome_ready h
    simp only [Option.some.injEq] at hj
    subst hj
    have hl := Endpoint.load_cons size hs
    have hw := Token.weight_strike_le t j .wait
    simp only [Waited.token_ofOutcome, Waited.endpoint_ofOutcome, remaining, Endpoint.load] at *
    omega

theorem weight_wait_le (timeout : Value) (t : Token) (e : Endpoint α) :
    (wait timeout t e).token.weight ≤ t.weight := by
  unfold wait
  split
  · simp [Token.cancel, Token.weight]
  · simp only [Waited.token_ofOutcome]
    exact t.weight_strike_le _ .wait

def Item.delivery (i : Item α) : Except SystemError α :=
  match i.error?, i.payload? with
  | some e, _ => .error e
  | none, some p => .ok p
  | none, none => .error .wouldBlock

theorem Item.payload_of_delivery {i : Item α} {p : α} (h : i.delivery = .ok p) :
    i.payload? = some p := by
  unfold Item.delivery at h
  split at h
  · simp at h
  · next hp =>
    simp only [Except.ok.injEq] at h
    rw [← h]
    exact hp
  · simp at h

end SctpProbe.Network
