set_option autoImplicit false

/-!
Binary floating-point numbers of 64 bits, as exact values. A number is read from decimal text by
rounding the exact ratio that the text denotes to the nearest number, a tie going to the even
neighbour. Comparison and truncation are exact.
-/

namespace SctpProbe

/-- A finite number is `± mantissa · 2 ^ exponent`. -/
inductive Binary64
  | nan
  | infinity (negative : Bool)
  | finite (negative : Bool) (mantissa : Nat) (exponent : Int)
  deriving DecidableEq, Repr

namespace Binary64

/-- The ratio `num / den` rounded to a whole number, a tie going to the even neighbour. -/
def roundRatio (num den : Nat) : Nat :=
  let q := num / den
  let r := num % den
  if 2 * r < den then q
  else if den < 2 * r then q + 1
  else if q % 2 = 0 then q else q + 1

def scale (base num den : Nat) (e : Int) : Nat × Nat :=
  if 0 ≤ e then (num, den * Nat.pow base e.toNat) else (num * Nat.pow base (-e).toNat, den)

def binaryOrder (num den : Nat) : Int :=
  let l : Int := (Nat.log2 num : Int) - (Nat.log2 den : Int)
  let s := scale 2 num den l
  if s.2 ≤ s.1 then l else l - 1

def ofRatio (negative : Bool) (num den : Nat) : Binary64 :=
  if num = 0 then .finite negative 0 0
  else
    let e := max (-1074) (binaryOrder num den - 52)
    let s := scale 2 num den e
    let m := roundRatio s.1 s.2
    let (m, e) := if m = Nat.pow 2 53 then (Nat.pow 2 52, e + 1) else (m, e)
    if 971 < e then .infinity negative
    else if m = 0 then .finite negative 0 0
    else .finite negative m e

/-- The number nearest to `digits · 10 ^ e`. Exponents beyond any finite number are cut off. -/
def ofDecimal (negative : Bool) (digits : Nat) (e : Int) : Binary64 :=
  if digits = 0 then .finite negative 0 0
  else
    let size : Int := (Nat.log2 digits : Int) / 3 + 1
    if 400 < e then .infinity negative
    else if e + size < -400 then .finite negative 0 0
    else
      let s := scale 10 digits 1 (-e)
      ofRatio negative s.1 s.2

def ratio (m : Nat) (e : Int) : Nat × Nat :=
  if 0 ≤ e then (m * Nat.pow 2 e.toNat, 1) else (m, Nat.pow 2 (-e).toNat)

def zero : Binary64 := .finite false 0 0

def isZero : Binary64 → Bool
  | .finite _ 0 _ => true
  | _ => false

def compare? : Binary64 → Binary64 → Option Ordering
  | .nan, _ => none
  | _, .nan => none
  | .infinity a, .infinity b => some (if a = b then .eq else if a then .lt else .gt)
  | .infinity a, .finite .. => some (if a then .lt else .gt)
  | .finite .., .infinity b => some (if b then .gt else .lt)
  | .finite a m e, .finite b n f =>
    let p := ratio m e
    let q := ratio n f
    let x : Int := (if a then -1 else 1) * (p.1 * q.2 : Nat)
    let y : Int := (if b then -1 else 1) * (q.1 * p.2 : Nat)
    some (compare x y)

def compareInt? : Binary64 → Int → Option Ordering
  | .nan, _ => none
  | .infinity a, _ => some (if a then .lt else .gt)
  | .finite a m e, n =>
    let p := ratio m e
    some (compare ((if a then -1 else 1) * (p.1 : Int)) (n * (p.2 : Int)))

def truncate (negative : Bool) (m : Nat) (e : Int) : Int :=
  let p := ratio m e
  let n : Int := (p.1 / p.2 : Nat)
  if negative then -n else n

def readDigits? (cs : List Char) : Option Nat :=
  if cs.all (fun c => 48 ≤ c.toNat && c.toNat ≤ 57) then
    some (cs.foldl (fun n c => 10 * n + (c.toNat - 48)) 0)
  else none

def readExponent? : List Char → Option Int
  | [] => none
  | '-' :: r => if r.isEmpty then none else (readDigits? r).map fun n => -(n : Int)
  | '+' :: r => if r.isEmpty then none else (readDigits? r).map Int.ofNat
  | r => (readDigits? r).map Int.ofNat

def readUnsigned? (negative : Bool) (cs : List Char) : Option Binary64 :=
  if cs = ['n', 'a', 'n'] then some .nan
  else if cs = ['i', 'n', 'f'] then some (.infinity negative)
  else
    let isMark := fun c : Char => c == 'e' || c == 'E'
    let (body, power) := (cs.takeWhile (!isMark ·), cs.dropWhile (!isMark ·))
    let whole := body.takeWhile (· != '.')
    let fraction := (body.dropWhile (· != '.')).drop 1
    let exponent := match power with
      | [] => some 0
      | _ :: r => readExponent? r
    match readDigits? (whole ++ fraction), exponent with
    | some n, some e =>
      if (whole ++ fraction).isEmpty then none
      else some (ofDecimal negative n (e - fraction.length))
    | _, _ => none

def read? : List Char → Option Binary64
  | '-' :: r => readUnsigned? true r
  | '+' :: r => readUnsigned? false r
  | r => readUnsigned? false r

end Binary64

end SctpProbe
