import SctpProbe.Text.Split
import SctpProbe.Value.Number
set_option autoImplicit false

/-!
Literals of IP addresses. An IPv4 literal is a dotted quad without leading zeros; an IPv6 literal
has eight groups of hexadecimal digits, of which one run may be left out, may end in a dotted quad
and may name a scope. An address that is mapped into IPv6 has its 32 bits behind the prefix
`::ffff:0:0`.
-/

namespace SctpProbe

inductive Address
  | v4 (bits : Nat)
  | v6 (bits : Nat)
  deriving DecidableEq, Repr

namespace Address

def octet? (cs : List Char) : Option Nat :=
  if cs.isEmpty ∨ 3 < cs.length ∨ ¬ cs.all (fun c => 48 ≤ c.toNat && c.toNat ≤ 57) then none
  else if cs ≠ ['0'] ∧ cs.head? = some '0' then none
  else
    let n := cs.foldl (fun n c => 10 * n + (c.toNat - 48)) 0
    if n ≤ 255 then some n else none

def quad? (cs : List Char) : Option Nat :=
  match (Text.split '.' cs).mapM octet? with
  | some [a, b, c, d] => some (((a * 256 + b) * 256 + c) * 256 + d)
  | _ => none

def quad (bits : Nat) : List Char :=
  Nat.toDigits 10 (bits / 0x1000000 % 256) ++ '.' :: Nat.toDigits 10 (bits / 0x10000 % 256) ++
    '.' :: Nat.toDigits 10 (bits / 0x100 % 256) ++ '.' :: Nat.toDigits 10 (bits % 256)

def hexDigit? (c : Char) : Option Nat :=
  let n := c.toNat
  if 48 ≤ n ∧ n ≤ 57 then some (n - 48)
  else if 97 ≤ n ∧ n ≤ 102 then some (n - 87)
  else if 65 ≤ n ∧ n ≤ 70 then some (n - 55)
  else none

def group? (cs : List Char) : Option Nat :=
  if cs.isEmpty ∨ 4 < cs.length then none
  else (cs.mapM hexDigit?).map fun ds => ds.foldl (fun n d => 16 * n + d) 0

def joined (groups : List Nat) : Nat := groups.foldl (fun n g => 65536 * n + g) 0

def expand? : List (List Char) → Option (List (List Char))
  | [] => some []
  | [p] =>
    if p.contains '.' then
      (quad? p).map fun n => [Nat.toDigits 16 (n / 65536), Nat.toDigits 16 (n % 65536)]
    else some [p]
  | p :: ps => (expand? ps).map (p :: ·)

def gaps (parts : List (List Char)) : List Nat :=
  (List.range' 1 (parts.length - 2)).filter fun i => (parts[i]?.getD []).isEmpty

/-- The groups in front of a gap: none if the gap is at the start, which takes one empty place. -/
def front? (parts : List (List Char)) : Option (List (List Char)) :=
  match parts with
  | [] :: [] => some []
  | [] :: _ => none
  | ps => some ps

def back? (parts : List (List Char)) : Option (List (List Char)) :=
  match parts.reverse with
  | [] :: [] => some []
  | [] :: _ => none
  | _ => some parts

/-- The 128 bits that the places between colons stand for. A gap leaves out one group at least. -/
def bits? (parts : List (List Char)) : Option Nat :=
  match gaps parts with
  | [] => if parts.length = 8 then (parts.mapM group?).map joined else none
  | [i] => do
    let high ← front? (parts.take i)
    let low ← back? (parts.drop (i + 1))
    if high.length + low.length ≤ 7 then
      let high ← high.mapM group?
      let low ← low.mapM group?
      some (joined high * Nat.pow 0x10000 (8 - high.length) + joined low)
    else none
  | _ => none

/-- An address without its scope, which follows the first percent sign, may not be empty and may
hold no other percent sign. -/
def withoutScope? (cs : List Char) : Option (List Char) :=
  match Text.split '%' cs with
  | [a] => some a
  | [a, scope] => if scope.isEmpty then none else some a
  | _ => none

def ofText6? (cs : List Char) : Option Nat := do
  let body ← withoutScope? cs
  let parts := Text.split ':' body
  if parts.length < 3 then none
  else
    let parts ← expand? parts
    if 9 < parts.length then none else bits? parts

def ofText? (cs : List Char) : Option Address :=
  if cs.contains '/' then none
  else match quad? cs with
    | some n => some (.v4 n)
    | none => (ofText6? cs).map .v6

/-- The address that a value stands for, if it stands for one. A whole number and packed bytes stand
for the address with these bits, everything else is read as a literal. -/
def ofValue? (v : Value) : Except Fault (Option Address) :=
  match v with
  | .bool _ | .int _ =>
    match v.int? with
    | none => .ok none
    | some n =>
      if n < 0 then .ok none
      else if n < Nat.pow 2 32 then .ok (some (.v4 n.toNat))
      else if n < Nat.pow 2 128 then .ok (some (.v6 n.toNat))
      else .ok none
  | .bytes bs =>
    let n := bs.foldl (fun n b => 256 * n + b.toNat) 0
    if bs.length = 4 then .ok (some (.v4 n))
    else if bs.length = 16 then .ok (some (.v6 n))
    else .ok none
  | _ => do
    let s ← v.shown
    return ofText? s.toList

def ofValue (v : Value) : Except Fault Address := do
  match ← ofValue? v with
  | some a => return a
  | none =>
    let s ← v.quoted
    throw (.notAnAddress s)

def mapped? (bits : Nat) : Option Nat :=
  if bits / 0x100000000 = 0xFFFF then some (bits % 0x100000000) else none

end Address

end SctpProbe
