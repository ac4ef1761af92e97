import SctpProbe.Log.Entry
import SctpProbe.Text.Alphanumeric
import SctpProbe.Text.Template
set_option autoImplicit false

/-!
Log records and how they are written. A record keeps its message as a template with arguments. A
formatter puts the message into a layout, where the level stands in front, padded to a column and on
terminals in colour. It notes the finished message on the record, and the time where it is asked
for; a styled message is finished on a copy only.
-/

namespace SctpProbe.Log

/-- `styled?` is a template that replaces the message where colours are shown. A backtrace and a
stack follow the message on lines of their own. A record may hold values of any kind where texts are
meant. What formatters have noted on it is `message?` and `time?`. -/
structure Record where
  name : Value
  level : Int
  template : Value
  arguments : Value
  styled? : Option Value
  backtrace : Value
  stack : Value
  message? : Option String
  time? : Option String
  deriving Repr

namespace Record

/-- A record whose arguments can be counted and whose level can be written. Arguments that count as
false stand for none. -/
def checked (r : Record) : Except Fault Record :=
  if r.arguments.truthy && !r.arguments.sized then .error (.noLength r.arguments.kindName)
  else if ¬ Text.Writable r.level then .error .tooManyDigits
  else .ok r

def filled [Machine] (r : Record) (template : Value) : Except Fault String := do
  let text ← template.shown
  if r.arguments.truthy then Template.fill text r.arguments else return text

def message [Machine] (r : Record) : Except Fault String := r.filled r.template

def ofEntry (e : Entry) : Record :=
  ⟨.text e.speaker.name, e.level.number, .text e.message, .tuple [], e.styled?.map .text, .nothing,
    .nothing, none, none⟩

/-- What a layout can show of a record. All logging is done by the main thread of one process, and
records do not know where in the program they were made. -/
def attributes (r : Record) : List (String × Value) := [
  ("name", r.name),
  ("msg", r.template),
  ("args", r.arguments),
  ("levelname", .text (levelName r.level)),
  ("levelno", .int r.level),
  ("pathname", .text ""),
  ("filename", .text ""),
  ("module", .text ""),
  ("exc_info", .nothing),
  ("exc_text", r.backtrace),
  ("stack_info", r.stack),
  ("lineno", .int 0),
  ("funcName", .nothing),
  ("created", .float Binary64.zero),
  ("msecs", .float Binary64.zero),
  ("relativeCreated", .float Binary64.zero),
  ("thread", .int 0),
  ("threadName", .text "MainThread"),
  ("processName", .text "MainProcess"),
  ("process", .int 0)] ++
  (r.styled?.map fun v => ("color_message", v)).toList ++
  (r.message?.map fun s => ("message", .text s)).toList ++
  (r.time?.map fun s => ("asctime", .text s)).toList

end Record

structure Formatter where
  coloured : Bool
  layout : String
  deriving DecidableEq, Repr

namespace Formatter

def serverLayout : String := "%(levelprefix)s %(message)s"

def plainLayout : String := "%(message)s"

def isWord (c : Char) : Bool := Text.isAlphanumeric c || c == '_'

/-- What may stand as the mark of a conversion in a layout, in either case. The long `s` and the `i`
with and without its dot count as forms of these letters. -/
def isMark (c : Char) : Bool :=
  c.toLower ∈ "diouxefgcrsa%".toList || c.toNat ∈ [0x130, 0x131, 0x17F]

def isDigit (c : Char) : Bool := (Text.digitValue? c).isSome

def dropSize? : List Char → Option (List Char)
  | '*' :: r => some r
  | cs => if (cs.takeWhile isDigit).isEmpty then none else some (cs.dropWhile isDigit)

def isConversion (cs : List Char) : Bool :=
  match cs with
  | '%' :: '(' :: r =>
    match r.takeWhile isWord, r.dropWhile isWord with
    | _ :: _, ')' :: r =>
      let r := r.dropWhile Template.isFlag
      let r := (dropSize? r).getD r
      let r := match r with
        | '.' :: p => (dropSize? p).getD r
        | _ => r
      match r with
      | c :: _ => isMark c
      | [] => false
    | _, _ => false
  | _ => false

def holdsConversion : List Char → Bool
  | [] => false
  | c :: r => isConversion (c :: r) || holdsConversion r

def make? (coloured : Bool) (layout : Value) : Except Fault Formatter :=
  match layout with
  | .text l =>
    let layout := if l.isEmpty then plainLayout else l
    if holdsConversion layout.toList then .ok ⟨coloured, layout⟩ else .error (.invalidLayout layout)
  | v => if v.truthy then .error (.notALayout v.kindName) else .ok ⟨coloured, plainLayout⟩

def server (coloured : Bool) : Formatter := ⟨coloured, serverLayout⟩

def levelWidth : Nat := 8

def levelMark (coloured : Bool) (level : Int) : String :=
  let name := (levelName level).toList
  let shown := if coloured then Text.Ansi.coloured ((Level.ofNumber? level).map Level.colour) name
    else name
  String.ofList (shown ++ ':' :: List.replicate (levelWidth - name.length) ' ')

def holds (part : List Char) : List Char → Bool
  | [] => part.isEmpty
  | c :: r => part.isPrefixOf (c :: r) || holds part r

def timed (f : Formatter) : Bool := holds "%(asctime)".toList f.layout.toList

/-- The time of a record. No clock runs here. -/
def epoch : String := "1970-01-01 00:00:00,000"

def noted [Machine] (f : Formatter) (r : Record) : Except Fault Record := do
  let message ← r.message
  return { r with message? := some message, time? := if f.timed then some epoch else r.time? }

/-- The copy of a record that is shown. Where colours are in use a styled message takes the place of
the plain one. -/
def dressed [Machine] (f : Formatter) (r : Record) : Except Fault Record :=
  match f.coloured, r.styled? with
  | true, some v =>
    if v.truthy then do
      let message ← r.filled v
      return { r with template := v, message? := some message }
    else .ok r
  | _, _ => .ok r

def arranged [Machine] (f : Formatter) (r : Record) : Except Fault String := do
  let shown ← f.dressed r
  Template.fill f.layout
    (.mapping (shown.attributes ++ [("levelprefix", .text (levelMark f.coloured r.level))]))

def followedBy (text : String) (more : Value) : Except Fault String :=
  match more with
  | .text m =>
    .ok (if m.isEmpty then text
      else if text.toList.getLast? = some '\n' then text ++ m
      else text ++ "\n" ++ m)
  | v => if v.truthy then .error (.notJoinable v.kindName) else .ok text

/-- What is written, and the record as it is left. The plain message has to be in order even where a
styled one replaces it. -/
def apply [Machine] (f : Formatter) (r : Record) : Record × Except Fault String :=
  match f.noted r with
  | .error e => (r, .error e)
  | .ok r => (r, do
    let text ← f.arranged r
    let text ← followedBy text r.backtrace
    followedBy text r.stack)

def format [Machine] (f : Formatter) (r : Record) : Except Fault String := (f.apply r).2

def outputs [Machine] : List Formatter → Record → List (Except Fault String)
  | [], _ => []
  | f :: fs, r => (f.apply r).2 :: outputs fs (f.apply r).1

end Formatter

end SctpProbe.Log
