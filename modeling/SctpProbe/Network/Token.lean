import SctpProbe.Network.Event
set_option autoImplicit false

namespace SctpProbe.Network

structure Token where
  cancelled : Bool
  signals : List Int
  deriving DecidableEq, Repr

namespace Token

def fresh : Token := ⟨false, []⟩

def cancel (t : Token) : Token := { t with cancelled := true }

def signal (t : Token) (n : Int) : Token := ⟨true, t.signals ++ [n]⟩

def weight (t : Token) : Nat := if t.cancelled then 0 else 1

variable {α : Type}

def stopAt (t : Token) (i : Item α) (m : Moment) : Trace × Token :=
  if i.stop? = some m then ([.stopped], t.cancel) else ([], t)

def signalAt (t : Token) (i : Item α) (m : Moment) : Trace × Token :=
  match i.signal? with
  | some (n, moment) => if moment = m then ([.signalled n], t.signal n) else ([], t)
  | none => ([], t)

/-- What an item does to the token at a moment: a request to stop comes before a signal. -/
def strike (t : Token) (i : Item α) (m : Moment) : Trace × Token :=
  let stop := t.stopAt i m
  let signal := stop.2.signalAt i m
  (stop.1 ++ signal.1, signal.2)

theorem cancelled_strike (t : Token) (i : Item α) (m : Moment) (h : t.cancelled = true) :
    (t.strike i m).2.cancelled = true := by
  simp only [strike, stopAt, signalAt]
  repeat' split
  all_goals simp [cancel, signal, h]

theorem weight_strike_le (t : Token) (i : Item α) (m : Moment) :
    (t.strike i m).2.weight ≤ t.weight := by
  unfold weight
  split
  · omega
  · next h =>
    split
    · next h' => exact absurd (cancelled_strike t i m h') h
    · omega

end Token

end SctpProbe.Network
