import SctpProbe.Number.Binary64
set_option autoImplicit false

namespace SctpProbe.Binary64

def lifts (num den : Nat) : Nat → Nat
  | 0 => 0
  | steps + 1 => if den ≤ num then 0 else lifts (10 * num) den steps + 1

def decimalOrder (num den : Nat) : Int :=
  if den ≤ num then ((Nat.toDigits 10 (num / den)).length : Int) - 1
  else -(lifts num den 1100 : Int)

structure Decimal where
  digits : Nat
  exponent : Int
  deriving DecidableEq, Repr

/-- The decimals of `n` digits just below and just above a positive ratio, the nearer one first; of
two equally near ones the even one is first. -/
def neighbours (num den n : Nat) : List Decimal :=
  let e := decimalOrder num den - (n - 1 : Nat)
  let s := scale 10 num den e
  let d := s.1 / s.2
  let below : Decimal := ⟨d, e⟩
  let above : Decimal := ⟨d + 1, e⟩
  if roundRatio s.1 s.2 = d then [below, above] else [above, below]

/-- The shortest decimal that reads back as `m · 2 ^ e`, the nearest one if there are several. -/
def shortest (m : Nat) (e : Int) : Decimal :=
  let p := ratio m e
  let reads := fun d : Decimal => decide (ofDecimal false d.digits d.exponent = .finite false m e)
  ((List.range' 1 17).findSome? fun n => (neighbours p.1 p.2 n).find? reads).getD ⟨m, 0⟩

def dropTrailingZeros (cs : List Char) : List Char :=
  (cs.reverse.dropWhile (· == '0')).reverse

def exponentText (e : Int) : List Char :=
  let ds := Nat.toDigits 10 e.natAbs
  (if e < 0 then '-' else '+') :: (if ds.length < 2 then '0' :: ds else ds)

def positional (ds : List Char) (order : Int) : List Char × List Char :=
  if 0 ≤ order then
    let k := order.toNat + 1
    (ds.take k ++ List.replicate (k - ds.length) '0', ds.drop k)
  else (['0'], List.replicate ((-order).toNat - 1) '0' ++ ds)

def signText (negative : Bool) : List Char := if negative then ['-'] else []

/-- The default form: the shortest digits, positional for leading exponents from -4 to 15 and then
with a digit after the point, otherwise with an exponent. -/
def written : Binary64 → List Char
  | .nan => ['n', 'a', 'n']
  | .infinity s => signText s ++ ['i', 'n', 'f']
  | .finite s 0 _ => signText s ++ ['0', '.', '0']
  | .finite s m e =>
    let d := shortest m e
    let all := Nat.toDigits 10 d.digits
    let order := d.exponent + all.length - 1
    let ds := dropTrailingZeros all
    signText s ++
      if -4 ≤ order ∧ order < 16 then
        let p := positional ds order
        p.1 ++ '.' :: (if p.2.isEmpty then ['0'] else p.2)
      else
        (match ds with
          | [] => []
          | [c] => [c]
          | c :: r => c :: '.' :: r) ++ 'e' :: exponentText order

def pointed (always : Bool) (fraction : List Char) : List Char :=
  if fraction.isEmpty ∧ always = false then [] else '.' :: fraction

def fixedPlaces (always : Bool) (places m : Nat) (e : Int) : List Char :=
  let p := ratio m e
  let ds := Nat.toDigits 10 (roundRatio (p.1 * Nat.pow 10 places) p.2)
  let ds := List.replicate (places + 1 - ds.length) '0' ++ ds
  let k := ds.length - places
  ds.take k ++ pointed always (ds.drop k)

def significant (places m : Nat) (e : Int) : List Char × Int :=
  if m = 0 then (List.replicate (places + 1) '0', 0)
  else
    let p := ratio m e
    let order := decimalOrder p.1 p.2
    let s := scale 10 p.1 p.2 (order - places)
    let ds := Nat.toDigits 10 (roundRatio s.1 s.2)
    if ds.length = places + 2 then (ds.take (places + 1), order + 1) else (ds, order)

def scientific (always : Bool) (places m : Nat) (e : Int) : List Char :=
  let (ds, order) := significant places m e
  ds.take 1 ++ pointed always (ds.drop 1) ++ 'e' :: exponentText order

/-- `digits` significant digits, positional while the leading exponent is from -4 to below `digits`;
trailing zeros are kept only if the point always is. -/
def general (always : Bool) (digits m : Nat) (e : Int) : List Char :=
  let n := max digits 1
  let (ds, order) := significant (n - 1) m e
  let ds := if always then ds else match dropTrailingZeros ds with
    | [] => ['0']
    | r => r
  if -4 ≤ order ∧ order < n then
    let p := positional ds order
    p.1 ++ pointed always p.2
  else ds.take 1 ++ pointed always (ds.drop 1) ++ 'e' :: exponentText order

end SctpProbe.Binary64
