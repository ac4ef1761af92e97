import SctpProbe.Value.Number
set_option autoImplicit false

/-!
Message templates. A template is literal text with conversions in it, each of the form `%(name)
flags width .precision mark`; all parts but the mark may be missing, and `%%` stands for a percent
sign. `pieces` takes a template apart without looking at any argument, `fill` puts the arguments in.
The arguments are taken one after the other, or looked up by name in a mapping.
-/

namespace SctpProbe.Template

inductive Size
  | unset
  | given (n : Nat)
  | taken
  deriving DecidableEq, Repr

structure Flags where
  left : Bool
  plus : Bool
  blank : Bool
  alternate : Bool
  zero : Bool
  deriving DecidableEq, Repr

/-- What stands between a percent sign and the mark. The mark is missing if the template ends before
it; its position counts from the start of the template. -/
structure Conversion where
  name? : Option (List Char)
  flags : Flags
  width : Size
  precision : Size
  mark? : Option (Char × Nat)
  deriving DecidableEq, Repr

inductive Piece
  | literal (c : Char)
  | conversion (c : Conversion)
  | openName
  deriving DecidableEq, Repr

def isFlag (c : Char) : Bool := c ∈ ['-', '+', ' ', '#', '0']

def isDigit (c : Char) : Bool := 48 ≤ c.toNat && c.toNat ≤ 57

def digitsToNat (cs : List Char) : Nat := cs.foldl (fun n c => 10 * n + (c.toNat - 48)) 0

def Flags.ofChars (cs : List Char) : Flags :=
  ⟨cs.contains '-', cs.contains '+', cs.contains ' ', cs.contains '#', cs.contains '0'⟩

theorem length_dropWhile_le (p : Char → Bool) (cs : List Char) :
    (cs.dropWhile p).length ≤ cs.length :=
  (List.dropWhile_suffix p).length_le

def readSize : List Char → Size × List Char
  | '*' :: r => (.taken, r)
  | cs =>
    if cs.takeWhile isDigit = [] then (.unset, cs)
    else (.given (digitsToNat (cs.takeWhile isDigit)), cs.dropWhile isDigit)

theorem length_readSize_le (cs : List Char) : (readSize cs).2.length ≤ cs.length := by
  unfold readSize
  split
  · simp
  · split
    · exact Nat.le_refl _
    · exact length_dropWhile_le isDigit _

def readPrecision : List Char → Size × List Char
  | '.' :: r =>
    match readSize r with
    | (.unset, rest) => (.given 0, rest)
    | found => found
  | cs => (.unset, cs)

theorem length_readPrecision_le (cs : List Char) : (readPrecision cs).2.length ≤ cs.length := by
  unfold readPrecision
  split
  · rename_i r
    have h := length_readSize_le r
    split
    · rename_i rest e
      simp only [e] at h
      simp only [List.length_cons]
      omega
    · simp only [List.length_cons]
      omega
  · exact Nat.le_refl _

def dropSizeLetter : List Char → List Char
  | 'h' :: r => r
  | 'l' :: r => r
  | 'L' :: r => r
  | cs => cs

theorem length_dropSizeLetter_le (cs : List Char) : (dropSizeLetter cs).length ≤ cs.length := by
  unfold dropSizeLetter
  split <;> simp

def readName? : Nat → List Char → Option (List Char × List Char)
  | _, [] => none
  | depth, c :: r =>
    if c = ')' ∧ depth = 0 then some ([], r)
    else
      let inner := if c = '(' then depth + 1 else if c = ')' then depth - 1 else depth
      (readName? inner r).map fun found => (c :: found.1, found.2)

theorem length_readName? {depth : Nat} {cs : List Char} {found : List Char × List Char}
    (h : readName? depth cs = some found) : found.2.length < cs.length := by
  induction cs generalizing depth found with
  | nil => simp [readName?] at h
  | cons c r ih =>
    simp only [readName?] at h
    split at h
    · simp only [Option.some.injEq] at h
      subst h
      simp
    · obtain ⟨inner, hi, rfl⟩ := Option.map_eq_some_iff.1 h
      have := ih hi
      simp only [List.length_cons]
      omega

def readConversion (total : Nat) (name? : Option (List Char)) (cs : List Char) :
    Conversion × List Char :=
  let flags := cs.takeWhile isFlag
  let width := readSize (cs.dropWhile isFlag)
  let precision := readPrecision width.2
  match dropSizeLetter precision.2 with
  | [] => (⟨name?, Flags.ofChars flags, width.1, precision.1, none⟩, [])
  | mark :: rest =>
    (⟨name?, Flags.ofChars flags, width.1, precision.1, some (mark, total - rest.length - 1)⟩, rest)

theorem length_readConversion_le (total : Nat) (name? : Option (List Char)) (cs : List Char) :
    (readConversion total name? cs).2.length ≤ cs.length := by
  have h1 := length_dropWhile_le isFlag cs
  have h2 := length_readSize_le (cs.dropWhile isFlag)
  have h3 := length_readPrecision_le (readSize (cs.dropWhile isFlag)).2
  have h4 := length_dropSizeLetter_le (readPrecision (readSize (cs.dropWhile isFlag)).2).2
  simp only [readConversion]
  split
  · simp
  · rename_i e
    rw [e] at h4
    simp only [List.length_cons] at h4
    simp only
    omega

/-- The pieces of what is left of a template of length `total`. Nothing follows an open name. -/
def piecesFrom (total : Nat) : List Char → List Piece
  | [] => []
  | '%' :: '%' :: r => .literal '%' :: piecesFrom total r
  | '%' :: '(' :: r =>
    match h : readName? 0 r with
    | none => [.openName]
    | some found =>
      have := length_readName? h
      have := length_readConversion_le total (some found.1) found.2
      .conversion (readConversion total (some found.1) found.2).1 ::
        piecesFrom total (readConversion total (some found.1) found.2).2
  | '%' :: r =>
    have := length_readConversion_le total none r
    .conversion (readConversion total none r).1 :: piecesFrom total (readConversion total none r).2
  | c :: r => .literal c :: piecesFrom total r
termination_by cs => cs.length
decreasing_by all_goals simp only [List.length_cons]; omega

def pieces (cs : List Char) : List Piece := piecesFrom cs.length cs

structure Supply where
  lookup? : Option (List Char → Except Fault Value)
  rest : List Value

namespace Supply

def lookup (entries : List (String × Value)) (name : List Char) : Except Fault Value :=
  match entries.find? fun e => e.1 == String.ofList name with
  | some e => .ok e.2
  | none => .error (.unknownField (String.ofList (Text.Quoted.ofText name)))

/-- What a template is filled from. The items of a tuple are arguments one by one, every other value
is a single argument. Names can be looked up in a mapping only, but a list or bytes would take
positions. -/
def ofValue : Value → Supply
  | .tuple vs => ⟨none, vs⟩
  | .mapping es => ⟨some (lookup es), [.mapping es]⟩
  | .list vs => ⟨some fun _ => .error (.positionExpected "list"), [.list vs]⟩
  | .bytes bs => ⟨some fun _ => .error (.positionExpected "byte"), [.bytes bs]⟩
  | v => ⟨none, [v]⟩

def take (s : Supply) : Except Fault (Value × Supply) :=
  match s.rest with
  | [] => .error .tooFewArguments
  | v :: vs => .ok (v, { s with rest := vs })

def select (s : Supply) (name : List Char) : Except Fault Supply :=
  match s.lookup? with
  | none => .error .namesExpected
  | some look => (look name).map fun v => { s with rest := [v] }

/-- Where no name can be looked up the arguments have to be used up. -/
def finish (s : Supply) : Except Fault Unit :=
  if s.lookup?.isNone && !s.rest.isEmpty then .error .tooManyArguments else .ok ()

end Supply

def widthLimit : Nat := 0x7FFFFFFFFFFFFFFF
def precisionLimit : Nat := 0x7FFFFFFF

def takeSize (s : Supply) (limit : Nat) (target : String) : Except Fault (Int × Supply) := do
  let (v, s) ← s.take
  match v.int? with
  | none => .error .starNotInteger
  | some n =>
    if n < -(limit : Int) - 1 ∨ (limit : Int) < n then .error (.starTooLarge target) else .ok (n, s)

/-- The width, and whether the text goes to the left. A negative width taken from the arguments
sends it there. -/
def widthOf (c : Conversion) (s : Supply) : Except Fault (Nat × Bool × Supply) :=
  match c.width with
  | .unset => .ok (0, c.flags.left, s)
  | .given n => if widthLimit < n then .error .widthTooBig else .ok (n, c.flags.left, s)
  | .taken => do
    let (n, s) ← takeSize s widthLimit "ssize_t"
    return (n.natAbs, c.flags.left || decide (n < 0), s)

def precisionOf (c : Conversion) (s : Supply) : Except Fault (Option Nat × Supply) :=
  match c.precision with
  | .unset => .ok (none, s)
  | .given n => if precisionLimit < n then .error .precisionTooBig else .ok (some n, s)
  | .taken => do
    let (n, s) ← takeSize s precisionLimit "int"
    return (some n.toNat, s)

/-- A converted argument: a sign, the mark of its base, and what may be filled up in front with
zeros. -/
structure Field where
  sign : List Char
  base : List Char
  body : List Char
  numeric : Bool

def Field.ofText (cs : List Char) : Field := ⟨[], [], cs, false⟩

def Field.pad (f : Field) (width : Nat) (left zero : Bool) : List Char :=
  let bare := f.sign ++ f.base ++ f.body
  let room := width - bare.length
  if left then bare ++ List.replicate room ' '
  else if zero && f.numeric then f.sign ++ f.base ++ List.replicate room '0' ++ f.body
  else List.replicate room ' ' ++ bare

def signOf (flags : Flags) (negative : Bool) : List Char :=
  if negative then ['-'] else if flags.plus then ['+'] else if flags.blank then [' '] else []

def upper (cs : List Char) : List Char :=
  cs.map fun c => if 97 ≤ c.toNat ∧ c.toNat ≤ 122 then Char.ofNat (c.toNat - 32) else c

/-- The whole number that an argument is printed as. Only decimal marks cut off a fraction. -/
def wholeOf (mark : Char) (decimal : Bool) (v : Value) : Except Fault Int :=
  match v with
  | .bool _ | .int _ => v.index
  | .float _ =>
    if decimal then do
      match ← v.truncated? with
      | some n => return n
      | none => .error (.numberExpected mark v.kindName)
    else .error (.integerExpected mark v.kindName)
  | _ => .error (if decimal then .numberExpected mark v.kindName
      else .integerExpected mark v.kindName)

def wholeField (c : Conversion) (mark : Char) (precision? : Option Nat) (v : Value) :
    Except Fault Field := do
  let decimal := mark = 'd' ∨ mark = 'i' ∨ mark = 'u'
  let n ← wholeOf mark decimal v
  if precisionLimit - 3 < precision?.getD 0 then throw .precisionTooLarge
  if decimal ∧ ¬ Text.Writable n then throw .tooManyDigits
  let radix := if decimal then 10 else if mark = 'o' then 8 else 16
  let digits := Nat.toDigits radix n.natAbs
  let body := List.replicate (precision?.getD 0 - digits.length) '0' ++ digits
  let base := if c.flags.alternate ∧ ¬ decimal then ['0', mark] else []
  return ⟨signOf c.flags (n < 0), base, if mark = 'X' then upper body else body, true⟩

def realOf (v : Value) : Except Fault Binary64 :=
  match Number.ofValue? v with
  | some n => n.real
  | none => .error (.realExpected v.kindName)

def realField (c : Conversion) (mark : Char) (precision? : Option Nat) (v : Value) :
    Except Fault Field := do
  let places := precision?.getD 6
  let (negative, body) := match ← realOf v with
    | .nan => (false, ['n', 'a', 'n'])
    | .infinity s => (s, ['i', 'n', 'f'])
    | .finite s m e =>
      (s, if mark = 'e' ∨ mark = 'E' then Binary64.scientific c.flags.alternate places m e
        else if mark = 'f' ∨ mark = 'F' then Binary64.fixedPlaces c.flags.alternate places m e
        else Binary64.general c.flags.alternate places m e)
  let body := if mark = 'E' ∨ mark = 'F' ∨ mark = 'G' then upper body else body
  return ⟨signOf c.flags negative, [], body, true⟩

def characterOf (v : Value) : Except Fault Char :=
  match v with
  | .text s =>
    match s.toList with
    | [c] => .ok c
    | _ => .error .characterExpected
  | _ =>
    match v.int? with
    | none => .error .characterExpected
    | some n => if 0 ≤ n ∧ n < 0x110000 then .ok (Char.ofNat n.toNat)
        else .error .characterOutOfRange

def textField (precision? : Option Nat) (s : String) : Field :=
  .ofText (match precision? with
    | some n => s.toList.take n
    | none => s.toList)

def fieldOf (c : Conversion) (mark : Char) (position : Nat) (precision? : Option Nat) (v : Value) :
    Except Fault Field :=
  if mark = 's' then v.shown.map (textField precision?)
  else if mark = 'r' then v.quoted.map (textField precision?)
  else if mark = 'a' then
    v.quoted.map fun s => textField precision? (String.ofList (Text.Quoted.asciiOnly s.toList))
  else if mark ∈ ['d', 'i', 'u', 'o', 'x', 'X'] then wholeField c mark precision? v
  else if mark ∈ ['e', 'E', 'f', 'F', 'g', 'G'] then realField c mark precision? v
  else if mark = 'c' then (characterOf v).map fun ch => .ofText [ch]
  else .error (.unknownConversion mark position)

def fillConversion [Machine] (c : Conversion) (s : Supply) : Except Fault (List Char × Supply) := do
  let s ← match c.name? with
    | some name => s.select name
    | none => pure s
  let (width, left, s) ← widthOf c s
  let (precision?, s) ← precisionOf c s
  match c.mark? with
  | none => throw .templateEnds
  | some (mark, position) =>
    let (v, s) ← s.take
    let field ← fieldOf c mark position precision? v
    if Machine.memory < width then throw .outOfMemory
    return (field.pad width left c.flags.zero, s)

def fillPieces [Machine] : List Piece → Supply → Except Fault (List Char)
  | [], s => do
    s.finish
    return []
  | .literal c :: ps, s => do
    let rest ← fillPieces ps s
    return c :: rest
  | .openName :: _, s => .error (if s.lookup?.isNone then .namesExpected else .templateKeyEnds)
  | .conversion c :: ps, s => do
    let (cs, s) ← fillConversion c s
    let rest ← fillPieces ps s
    return cs ++ rest

def fill [Machine] (template : String) (arguments : Value) : Except Fault String :=
  (fillPieces (pieces template.toList) (.ofValue arguments)).map String.ofList

end SctpProbe.Template
