set_option autoImplicit false

namespace SctpProbe

inductive Signal
  | interrupt
  | terminate
  | pipe
  deriving DecidableEq, Repr

namespace Signal

def number : Signal → Int
  | .interrupt => 2
  | .terminate => 15
  | .pipe => 13

def name : Signal → String
  | .interrupt => "SIGINT"
  | .terminate => "SIGTERM"
  | .pipe => "SIGPIPE"

def all : List Signal := [.interrupt, .pipe, .terminate]

def ofNumber? (n : Int) : Option Signal := all.find? fun s => s.number == n

def nameOf (n : Int) : String :=
  match ofNumber? n with
  | some s => s.name
  | none => toString n

inductive Handler
  | server
  | other (n : Nat)
  deriving DecidableEq, Repr

abbrev Handlers := Signal → Handler

structure Assignment where
  signal : Signal
  handler : Handler
  deriving DecidableEq, Repr

def assign (h : Handlers) (a : Assignment) : Handlers :=
  fun s => if s = a.signal then a.handler else h s

/-- Takes signals over one after the other, and notes for each who handled it before. -/
def takeOver : List Signal → Handlers → List Assignment × Handlers
  | [], h => ([], h)
  | s :: rest, h =>
    let r := takeOver rest (assign h ⟨s, .server⟩)
    (⟨s, h s⟩ :: r.1, r.2)

def handled : List Signal := [.interrupt, .terminate, .pipe]

/-- The handlers while a server runs, which can only take over on the main thread, and what has to
be put back afterwards. -/
def capture (mainThread : Bool) (h : Handlers) : List Assignment × Handlers :=
  if mainThread then takeOver handled h else ([], h)

def handBack (originals : List Assignment) (h : Handlers) : Handlers := originals.foldl assign h

end Signal

end SctpProbe
