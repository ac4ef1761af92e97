import SctpProbe.Number.Written
import SctpProbe.Text.Digit
import SctpProbe.Text.Quoted
import SctpProbe.Fault
set_option autoImplicit false

/-!
Dynamic values: what a setting, a socket address or a log argument may be, and the mapping from
names to values that a layout looks things up in. They are printed in two forms, the plain one
(`shown`) and the one in which a text is quoted (`quoted`); nested values are always quoted.
-/

namespace SctpProbe

inductive Value
  | nothing
  | bool (b : Bool)
  | int (n : Int)
  | float (x : Binary64)
  | text (s : String)
  | bytes (bs : List UInt8)
  | tuple (items : List Value)
  | list (items : List Value)
  | mapping (entries : List (String × Value))
  deriving Repr, Inhabited

namespace Value

def kindName : Value → String
  | .nothing => "NoneType"
  | .bool _ => "bool"
  | .int _ => "int"
  | .float _ => "float"
  | .text _ => "str"
  | .bytes _ => "bytes"
  | .tuple _ => "tuple"
  | .list _ => "list"
  | .mapping _ => "dict"

/-- Nothing, false, zero and whatever is empty count as false. -/
def truthy : Value → Bool
  | .nothing => false
  | .bool b => b
  | .int n => n != 0
  | .float x => !x.isZero
  | .text s => !s.isEmpty
  | .bytes bs => !bs.isEmpty
  | .tuple vs => !vs.isEmpty
  | .list vs => !vs.isEmpty
  | .mapping es => !es.isEmpty

def sized : Value → Bool
  | .text _ => true
  | .bytes _ => true
  | .tuple _ => true
  | .list _ => true
  | .mapping _ => true
  | _ => false

def boolText (b : Bool) : String := if b then "True" else "False"

def intText (n : Int) : Except Fault String :=
  if Text.Writable n then .ok (String.ofList (Text.ofInt n)) else .error .tooManyDigits

mutual

def quoted : Value → Except Fault String
  | .nothing => .ok "None"
  | .bool b => .ok (boolText b)
  | .int n => intText n
  | .float x => .ok (String.ofList x.written)
  | .text s => .ok (String.ofList (Text.Quoted.ofText s.toList))
  | .bytes bs => .ok (String.ofList (Text.Quoted.ofBytes bs))
  | .tuple [v] => do
    let s ← quoted v
    return "(" ++ s ++ ",)"
  | .tuple vs => do
    let ss ← quotedItems vs
    return "(" ++ ", ".intercalate ss ++ ")"
  | .list vs => do
    let ss ← quotedItems vs
    return "[" ++ ", ".intercalate ss ++ "]"
  | .mapping es => do
    let ss ← quotedEntries es
    return "\x7b" ++ ", ".intercalate ss ++ "\x7d"

def quotedItems : List Value → Except Fault (List String)
  | [] => .ok []
  | v :: vs => do
    let s ← quoted v
    let ss ← quotedItems vs
    return s :: ss

def quotedEntries : List (String × Value) → Except Fault (List String)
  | [] => .ok []
  | (name, v) :: es => do
    let s ← quoted v
    let ss ← quotedEntries es
    return (String.ofList (Text.Quoted.ofText name.toList) ++ ": " ++ s) :: ss

end

def shown : Value → Except Fault String
  | .text s => .ok s
  | v => v.quoted

@[simp] theorem shown_text (s : String) : (Value.text s).shown = .ok s := rfl

def ofBool (b : Bool) : Int := if b then 1 else 0

def int? : Value → Option Int
  | .bool b => some (ofBool b)
  | .int n => some n
  | _ => none

mutual

/-- Whether two values are equal: numbers by value, whatever their kind, and everything else by kind
and content in order. -/
def same : Value → Value → Bool
  | .nothing, .nothing => true
  | .bool a, .bool b => a == b
  | .bool a, .int n => ofBool a == n
  | .int n, .bool b => n == ofBool b
  | .int m, .int n => m == n
  | .bool a, .float y => y.compareInt? (ofBool a) == some .eq
  | .float x, .bool b => x.compareInt? (ofBool b) == some .eq
  | .int m, .float y => y.compareInt? m == some .eq
  | .float x, .int n => x.compareInt? n == some .eq
  | .float x, .float y => x.compare? y == some .eq
  | .text s, .text t => s == t
  | .bytes a, .bytes b => a == b
  | .tuple vs, .tuple ws => sameItems vs ws
  | .list vs, .list ws => sameItems vs ws
  | .mapping es, .mapping fs => sameEntries es fs
  | _, _ => false

def sameItems : List Value → List Value → Bool
  | [], [] => true
  | v :: vs, w :: ws => same v w && sameItems vs ws
  | _, _ => false

def sameEntries : List (String × Value) → List (String × Value) → Bool
  | [], [] => true
  | (n, v) :: es, (m, w) :: fs => n == m && same v w && sameEntries es fs
  | _, _ => false

end

mutual

/-- The kind of the first part of a value that may still change. Nothing can be looked up by a value
with such a part. -/
def changeable? : Value → Option String
  | .list _ => some "list"
  | .mapping _ => some "dict"
  | .tuple vs => changeableItem? vs
  | _ => none

def changeableItem? : List Value → Option String
  | [] => none
  | v :: vs => (changeable? v).or (changeableItem? vs)

end

end Value

end SctpProbe
