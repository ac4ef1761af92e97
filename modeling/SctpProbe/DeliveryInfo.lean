import SctpProbe.Value.Number
import SctpProbe.Word
set_option autoImplicit false

/-!
Delivery information: what SCTP says about a single message. It travels beside the data as a control
message of 32 bytes, little end first except for the payload protocol identifier, which is kept in
network order. A reply carries the stream and the identifier of what it answers and nothing else.
-/

namespace SctpProbe

structure ControlMessage where
  level : Int
  kind : Int
  data : List UInt8
  deriving DecidableEq, Repr

structure DeliveryInfo where
  stream : Int
  ssn : Int
  flags : Int
  ppid : Int
  context : Int
  timeToLive : Int
  tsn : Int
  cumulativeTsn : Int
  association : Int
  deriving DecidableEq, Repr

/-- The protocol number of SCTP, which is also the level of its options and control messages. -/
def sctp : Int := 132

namespace DeliveryInfo

def controlKind : Int := 1

def size : Nat := 32

def controlRoom : Nat := 48

def eventsOption : Int := 11

def subscription : List UInt8 := 1 :: List.replicate 9 0

def unordered (d : DeliveryInfo) : Bool := d.flags % 2 == 1

def ordering (d : DeliveryInfo) : String := if d.unordered then "unordered" else "ordered"

def description (d : DeliveryInfo) : String :=
  "\t stream: " ++ toString d.stream ++ " ppid: " ++ toString d.ppid ++
    " context: " ++ toString d.context ++ "\n" ++
    "\t ssn: " ++ toString d.ssn ++ " tsn: " ++ toString d.tsn ++
    " cumtsn: " ++ toString d.cumulativeTsn ++ " [" ++ d.ordering ++ "]"

def slice (bs : List UInt8) (offset width : Nat) : List UInt8 := (bs.drop offset).take width

/-- Reads delivery information; bytes beyond it are not looked at. -/
def decode (bs : List UInt8) : Except Fault DeliveryInfo :=
  if bs.length < size then .error (.shortDeliveryInfo bs.length)
  else .ok {
    stream := Word.ofLowFirst (slice bs 0 2)
    ssn := Word.ofLowFirst (slice bs 2 2)
    flags := Word.ofLowFirst (slice bs 4 2)
    ppid := Word.ofHighFirst (slice bs 8 4)
    context := Word.ofLowFirst (slice bs 12 4)
    timeToLive := Word.ofLowFirst (slice bs 16 4)
    tsn := Word.ofLowFirst (slice bs 20 4)
    cumulativeTsn := Word.ofLowFirst (slice bs 24 4)
    association := Word.signed 32 (Word.ofLowFirst (slice bs 28 4)) }

def identifierOf (v : Value) : Except Fault Nat :=
  match v.int? with
  | none => .error (.identifierNotInteger v.kindName)
  | some n =>
    if n < 0 then .error .identifierNegative
    else if 0x10000000000000000 ≤ n then .error .identifierTooLong
    else if 0x100000000 ≤ n then .error .identifierTooLarge
    else .ok n.toNat

def shortOf (v : Value) : Except Fault Nat :=
  match v.int? with
  | none => .error .fieldNotInteger
  | some n =>
    if n < -0x8000000000000000 ∨ 0x8000000000000000 ≤ n then .error .fieldOutOfReach
    else if n < 0 ∨ 0x10000 ≤ n then .error .shortFieldOutOfRange
    else .ok n.toNat

def wordOf (v : Value) : Except Fault Nat :=
  match v.int? with
  | none => .error .fieldNotInteger
  | some n =>
    if n < 0 ∨ 0x10000000000000000 ≤ n then .error .fieldOutOfReach
    else if 0x100000000 ≤ n then .error .wordFieldOutOfRange
    else .ok n.toNat

/-- The bytes of delivery information with four fields set and zeros in all others. -/
def layout (stream flags ppid context : Nat) : List UInt8 :=
  Word.lowFirst 2 stream ++ [0, 0] ++ Word.lowFirst 2 flags ++ [0, 0] ++ Word.highFirst 4 ppid ++
    Word.lowFirst 4 context ++ List.replicate 16 0

/-- Writes delivery information for an outgoing message. The identifier is looked at first. -/
def encode (stream ppid flags context : Value) : Except Fault (List UInt8) := do
  let ppid ← identifierOf ppid
  let stream ← shortOf stream
  let flags ← shortOf flags
  let context ← wordOf context
  return layout stream flags ppid context

def isCarrier (c : ControlMessage) : Bool := c.level == sctp && c.kind == controlKind

/-- The delivery information among control messages: the first one that carries any decides. -/
def among (messages : List ControlMessage) : Except Fault (Option DeliveryInfo) :=
  match messages.find? isCarrier with
  | none => .ok none
  | some c => (decode c.data).map some

def reply : Option DeliveryInfo → Except Fault (List ControlMessage)
  | none => .ok []
  | some d => do
    let data ← encode (.int d.stream) (.int d.ppid) (.int 0) (.int 0)
    return [⟨sctp, controlKind, data⟩]

theorem length_slice_le (bs : List UInt8) (offset width : Nat) :
    (slice bs offset width).length ≤ width :=
  List.length_take_le _ _

theorem encode_short_word {stream ppid : Nat} (hs : stream < 0x10000) (hp : ppid < 0x100000000) :
    encode (.int stream) (.int ppid) (.int 0) (.int 0) = .ok (layout stream 0 ppid 0) := by
  have h1 : identifierOf (.int ppid) = .ok ppid := by
    unfold identifierOf
    simp only [Value.int?]
    rw [if_neg (by omega), if_neg (by omega), if_neg (by omega)]
    rfl
  have h2 : shortOf (.int stream) = .ok stream := by
    unfold shortOf
    simp only [Value.int?]
    rw [if_neg (by omega), if_neg (by omega)]
    rfl
  have h3 : shortOf (.int 0) = .ok 0 := rfl
  have h4 : wordOf (.int 0) = .ok 0 := rfl
  simp [encode, h1, h2, h3, h4, bind, Except.bind, pure, Except.pure]

theorem reply_of_decode {bs : List UInt8} {d : DeliveryInfo} (h : decode bs = .ok d) :
    reply (some d) = .ok [⟨sctp, controlKind,
      bs.take 2 ++ List.replicate 6 0 ++ (bs.drop 8).take 4 ++ List.replicate 20 0⟩] := by
  unfold decode at h
  split at h
  · simp at h
  · next hl =>
    simp only [Except.ok.injEq] at h
    have hstream : (slice bs 0 2).length = 2 := by
      simp only [slice, List.length_take, List.length_drop]
      simp only [size] at hl
      omega
    have hppid : (slice bs 8 4).length = 4 := by
      simp only [slice, List.length_take, List.length_drop]
      simp only [size] at hl
      omega
    have hs := Word.ofLowFirst_lt _ (length_slice_le bs 0 2)
    have hp : Word.ofHighFirst (slice bs 8 4) < Nat.pow 256 4 :=
      Word.ofLowFirst_lt _ (by simpa using length_slice_le bs 8 4)
    have hs' := Word.lowFirst_ofLowFirst (slice bs 0 2)
    have hp' := Word.highFirst_ofHighFirst (slice bs 8 4)
    rw [hstream] at hs'
    rw [hppid] at hp'
    subst h
    simp only [reply, encode_short_word hs hp, layout, hs', hp']
    simp [bind, Except.bind, pure, Except.pure, slice, Word.lowFirst]

end DeliveryInfo

end SctpProbe
