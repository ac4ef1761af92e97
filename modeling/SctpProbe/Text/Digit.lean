set_option autoImplicit false

namespace SctpProbe.Text

/-- The code points of the digit zero, one for each run of ten decimal digits. -/
def zeroDigits : List Nat :=
  [0x30, 0x660, 0x6f0, 0x7c0, 0x966, 0x9e6, 0xa66, 0xae6, 0xb66, 0xbe6, 0xc66, 0xce6, 0xd66, 0xde6,
   0xe50, 0xed0, 0xf20, 0x1040, 0x1090, 0x17e0, 0x1810, 0x1946, 0x19d0, 0x1a80, 0x1a90, 0x1b50,
   0x1bb0, 0x1c40, 0x1c50, 0xa620, 0xa8d0, 0xa900, 0xa9d0, 0xa9f0, 0xaa50, 0xabf0, 0xff10, 0x104a0,
   0x10d30, 0x11066, 0x110f0, 0x11136, 0x111d0, 0x112f0, 0x11450, 0x114d0, 0x11650, 0x116c0,
   0x11730, 0x118e0, 0x11950, 0x11c50, 0x11d50, 0x11da0, 0x16a60, 0x16ac0, 0x16b50, 0x1d7ce,
   0x1d7d8, 0x1d7e2, 0x1d7ec, 0x1d7f6, 0x1e140, 0x1e2f0, 0x1e950, 0x1fbf0]

def digitValue? (c : Char) : Option Nat :=
  (zeroDigits.find? fun z => z ≤ c.toNat && c.toNat < z + 10).map (c.toNat - ·)

def isBlank (c : Char) : Bool :=
  let n := c.toNat
  (9 ≤ n && n ≤ 13) || n == 32 || n == 0x85 || n == 0xa0 || n == 0x1680 ||
    (0x2000 ≤ n && n ≤ 0x200a) || n == 0x2028 || n == 0x2029 || n == 0x202f || n == 0x205f ||
    n == 0x3000

def digitLimit : Nat := 4300

/-- Digits, with single underscores allowed between two of them. `sep` says whether an underscore
may stand next. -/
def readDigits? (sep : Bool) : List Char → Option (List Nat)
  | [] => if sep then some [] else none
  | c :: r =>
    if c = '_' then (if sep then readDigits? false r else none)
    else match digitValue? c with
      | some d => (readDigits? true r).map (d :: ·)
      | none => none

def digitsValue (ds : List Nat) : Nat := ds.foldl (fun n d => 10 * n + d) 0

/-- A whole number as people write it: blanks around it, a sign, digits of any script, underscores
between digits. Numbers of more than `digitLimit` digits are refused. -/
def readInt? (cs : List Char) : Option Int :=
  let core := ((cs.dropWhile isBlank).reverse.dropWhile isBlank).reverse
  let (negative, body) := match core with
    | '-' :: r => (true, r)
    | '+' :: r => (false, r)
    | r => (false, r)
  match readDigits? false body with
  | none => none
  | some ds =>
    if ds.length ≤ digitLimit then
      let n : Int := digitsValue ds
      some (if negative then -n else n)
    else none

def ofInt (n : Int) : List Char :=
  if n < 0 then '-' :: Nat.toDigits 10 n.natAbs else Nat.toDigits 10 n.natAbs

def Writable (n : Int) : Prop := n.natAbs < Nat.pow 10 digitLimit

instance (n : Int) : Decidable (Writable n) := inferInstanceAs (Decidable (_ < _))

end SctpProbe.Text
