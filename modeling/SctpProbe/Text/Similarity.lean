set_option autoImplicit false

namespace SctpProbe.Text

def commonStart : List Char → List Char → Nat
  | a :: as, b :: bs => if a = b then commonStart as bs + 1 else 0
  | _, _ => 0

structure Part where
  left : Nat
  right : Nat
  length : Nat
  deriving DecidableEq, Repr

/-- The longest common part; of several the one that comes first in the left text, then in the right
one. -/
def longestPart (as bs : List Char) : Part :=
  let starts := (List.range as.length).flatMap fun i => (List.range bs.length).map fun j => (i, j)
  starts.foldl (fun best (i, j) =>
    let n := commonStart (as.drop i) (bs.drop j)
    if best.length < n then ⟨i, j, n⟩ else best) ⟨0, 0, 0⟩

/-- The length of what two texts have in common. `depth` bounds how often a text is divided further.
-/
def common : Nat → List Char → List Char → Nat
  | 0, _, _ => 0
  | depth + 1, as, bs =>
    let p := longestPart as bs
    if p.length = 0 then 0
    else
      common depth (as.take p.left) (bs.take p.right) + p.length +
        common depth (as.drop (p.left + p.length)) (bs.drop (p.right + p.length))

def similarity (as bs : List Char) : Nat × Nat :=
  (2 * common as.length as bs, as.length + bs.length)

/-- Two texts are close if their similarity is at least three fifths. They have no more in common
than the shorter one holds, so very unequal lengths settle it. -/
def close (as bs : List Char) : Bool :=
  3 * (as.length + bs.length) ≤ 10 * min as.length bs.length &&
    let s := similarity as bs
    3 * s.2 ≤ 5 * s.1

def nearer (cs as bs : List Char) : Bool :=
  let s := similarity as cs
  let t := similarity bs cs
  if s.1 * t.2 = t.1 * s.2 then !(decide (String.ofList as < String.ofList bs))
  else t.1 * s.2 < s.1 * t.2

def closest (n : Nat) (cs : List Char) (texts : List (List Char)) : List (List Char) :=
  ((texts.filter fun t => close t cs).mergeSort (nearer cs)).take n

end SctpProbe.Text
