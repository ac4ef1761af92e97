import SctpProbe.Value.Basic
set_option autoImplicit false

namespace SctpProbe

inductive Number
  | bool (b : Bool)
  | int (n : Int)
  | float (x : Binary64)
  deriving DecidableEq, Repr

namespace Number

def toValue : Number → Value
  | .bool b => .bool b
  | .int n => .int n
  | .float x => .float x

def ofValue? : Value → Option Number
  | .bool b => some (.bool b)
  | .int n => some (.int n)
  | .float x => some (.float x)
  | _ => none

def compareInt? : Number → Int → Option Ordering
  | .bool b, k => some (compare (Value.ofBool b) k)
  | .int n, k => some (compare n k)
  | .float x, k => x.compareInt? k

/-- A number among the floating-point ones, of which a whole number may be too large to be one. -/
def real : Number → Except Fault Binary64
  | .bool b => .ok (Binary64.ofRatio false (Value.ofBool b).natAbs 1)
  | .int n =>
    match Binary64.ofRatio (decide (n < 0)) n.natAbs 1 with
    | .infinity _ => .error .numberTooLarge
    | x => .ok x
  | .float x => .ok x

def atMost (n : Number) (k : Int) : Bool :=
  match n.compareInt? k with
  | some .lt | some .eq => true
  | _ => false

def atLeast (n : Number) (k : Int) : Bool :=
  match n.compareInt? k with
  | some .gt | some .eq => true
  | _ => false

def above (n : Number) (k : Int) : Bool :=
  match n.compareInt? k with
  | some .gt => true
  | _ => false

theorem lt_of_above_int {n k : Int} (h : (Number.int n).above k = true) : k < n := by
  simp only [above, compareInt?] at h
  split at h
  · next hc =>
    simp only [Option.some.injEq] at hc
    exact Int.compare_eq_gt.1 hc
  · simp at h

end Number

namespace Value

def truncated? : Value → Except Fault (Option Int)
  | .bool b => .ok (some (ofBool b))
  | .int n => .ok (some n)
  | .float (.finite s m e) => .ok (some (Binary64.truncate s m e))
  | .float (.infinity _) => .error .infiniteNumber
  | .float .nan => .error .notANumber
  | _ => .ok none

/-- The whole number that a value denotes: a number without its fraction, or the text of a whole
number. An infinite number is a fault; all other values denote nothing. -/
def denoted? : Value → Except Fault (Option Int)
  | .float .nan => .ok none
  | .text s => .ok (Text.readInt? s.toList)
  | .bytes bs =>
    .ok (if bs.all (· < 128) then Text.readInt? (bs.map fun b => Char.ofNat b.toNat) else none)
  | v => v.truncated?

theorem denoted?_error {v : Value} {f : Fault} (h : v.denoted? = .error f) :
    f = .infiniteNumber := by
  unfold denoted? at h
  split at h
  · simp at h
  · simp at h
  · simp at h
  · next h1 h2 h3 =>
    unfold truncated? at h
    split at h
    · simp at h
    · simp at h
    · simp at h
    · simp only [Except.error.injEq] at h
      exact h.symm
    · next => exact absurd rfl h1
    · simp at h

def index (v : Value) : Except Fault Int :=
  match v.int? with
  | some n => .ok n
  | none => .error (.notWhole v.kindName)

end Value

end SctpProbe
