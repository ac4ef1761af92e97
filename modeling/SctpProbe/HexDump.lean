import SctpProbe.Value.Number
set_option autoImplicit false

namespace SctpProbe.HexDump

def usualWidth : Nat := 16

def visible (b : UInt8) : Char :=
  if 32 ≤ b.toNat ∧ b.toNat ≤ 126 then Char.ofNat b.toNat else '.'

def columns : List UInt8 → List Char
  | [] => []
  | [b] => Text.Quoted.hex 2 b.toNat
  | b :: r => Text.Quoted.hex 2 b.toNat ++ ' ' :: columns r

def padRight (width : Nat) (cs : List Char) : List Char :=
  cs ++ List.replicate (width - cs.length) ' '

def row (width offset : Nat) (bs : List UInt8) : List Char :=
  Text.Quoted.hex 4 offset ++ [' ', ' '] ++ padRight (3 * width - 1) (columns bs) ++ [' ', ' '] ++
    bs.map visible

/-- The lines for the bytes from an offset on. A row of no width holds nothing, and there are none.
-/
def rows (width offset : Nat) (bs : List UInt8) : List (List Char) :=
  if _h : bs = [] ∨ width = 0 then []
  else row width offset (bs.take width) :: rows width (offset + width) (bs.drop width)
termination_by bs.length
decreasing_by
  cases bs with
  | nil => simp at _h
  | cons b r =>
    simp only [List.length_drop, List.length_cons]
    omega

def heading (title : String) (bs : List UInt8) : String :=
  title ++ " (" ++ toString bs.length ++ " bytes):"

def text (title : String) (width : Nat) (bs : List UInt8) : String :=
  "\n".intercalate (heading title bs :: (rows width 0 bs).map String.ofList)

def byteLimit : Nat := 0x7FFFFFFFFFFFFFDE

def columnLimit : Nat := 0x7FFFFFFFFFFFFFFF

def listed : List Value → Except Fault (List UInt8)
  | [] => .ok []
  | v :: vs => do
    let n ← v.index
    if n < 0 ∨ 255 < n then throw .byteOutOfRange
    let rest ← listed vs
    return UInt8.ofNat n.toNat :: rest

/-- The bytes that a value stands for. A whole number stands for that many zeros. -/
def bytesOf [Machine] : Value → Except Fault (List UInt8)
  | .bytes bs => .ok bs
  | .tuple vs => listed vs
  | .list vs => listed vs
  | .text _ => .error .textWithoutEncoding
  | v =>
    match v.int? with
    | none => .error (.notBytes v.kindName "bytes")
    | some n =>
      if n < -0x8000000000000000 ∨ 0x8000000000000000 ≤ n then .error .countTooLarge
      else if n < 0 then .error .negativeCount
      else if byteLimit < n.toNat then .error .bytesTooLarge
      else if Machine.memory < n.toNat then .error .outOfMemory
      else .ok (List.replicate n.toNat 0)

/-- The dump of any value under any title. A negative width leaves the heading only; the number of
columns has to be one that can be written. -/
def ofValues [Machine] (data title width : Value) : Except Fault String := do
  let bs ← bytesOf data
  let title ← title.shown
  let width ← width.index
  if width = 0 then throw .zeroStep
  if ¬ bs.isEmpty ∧ ¬ Text.Writable (3 * width.toNat - 1 : Nat) then throw .tooManyDigits
  if ¬ bs.isEmpty ∧ columnLimit < 3 * width.toNat - 1 then throw .columnsTooWide
  if ¬ bs.isEmpty ∧ Machine.memory < 3 * width.toNat then throw .outOfMemory
  return text title width.toNat bs

end SctpProbe.HexDump
