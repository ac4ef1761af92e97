import SctpProbe.Text.Ansi
set_option autoImplicit false

namespace SctpProbe.Log

inductive Level
  | debug
  | info
  | warning
  | error
  | critical
  deriving DecidableEq, Repr

namespace Level

def number : Level → Int
  | .debug => 10
  | .info => 20
  | .warning => 30
  | .error => 40
  | .critical => 50

def name : Level → String
  | .debug => "DEBUG"
  | .info => "INFO"
  | .warning => "WARNING"
  | .error => "ERROR"
  | .critical => "CRITICAL"

def word : Level → String
  | .debug => "debug"
  | .info => "info"
  | .warning => "warning"
  | .error => "error"
  | .critical => "critical"

def all : List Level := [.critical, .error, .warning, .info, .debug]

def ofWord? (s : String) : Option Level := all.find? fun l => l.word == s

def ofNumber? (n : Int) : Option Level := all.find? fun l => l.number == n

theorem ofWord?_word (l : Level) : ofWord? l.word = some l := by
  cases l <;> decide

def colour : Level → Text.Ansi.Colour
  | .debug => .cyan
  | .info => .green
  | .warning => .yellow
  | .error => .red
  | .critical => .brightRed

end Level

/-- The name of any level. Zero is the level that is not set. -/
def levelName (n : Int) : String :=
  match Level.ofNumber? n with
  | some l => l.name
  | none => if n = 0 then "NOTSET" else "Level " ++ toString n

end SctpProbe.Log
