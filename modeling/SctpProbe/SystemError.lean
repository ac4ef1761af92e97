set_option autoImplicit false

namespace SctpProbe

inductive SystemError
  | numbered (number : Option Int) (reason : Option String)
  | worded (text : String)
  | bare
  deriving DecidableEq, Repr

namespace SystemError

def number? : SystemError → Option Int
  | .numbered n _ => n
  | _ => none

def reason? : SystemError → Option String
  | .numbered _ r => r
  | _ => none

inductive Kind
  | permission
  | notFound
  | interrupted
  | wouldBlock
  | brokenPipe
  | aborted
  | reset
  | timedOut
  | refused
  | other
  deriving DecidableEq, Repr

def kind (e : SystemError) : Kind :=
  match e.number? with
  | some 1 | some 13 => .permission
  | some 2 => .notFound
  | some 4 => .interrupted
  | some 11 | some 114 | some 115 => .wouldBlock
  | some 32 | some 108 => .brokenPipe
  | some 103 => .aborted
  | some 104 => .reset
  | some 110 => .timedOut
  | some 111 => .refused
  | _ => .other

def isTransient (e : SystemError) : Bool :=
  match e.kind with
  | .wouldBlock | .interrupted => true
  | _ => false

def missing : String := "None"

def message : SystemError → String
  | .numbered n r =>
    "[Errno " ++ (match n with
      | some k => toString k
      | none => missing) ++ "] " ++ r.getD missing
  | .worded t => t
  | .bare => ""

def wouldBlock : SystemError := .numbered (some 11) (some "Resource temporarily unavailable")

def noDescriptor : SystemError := .numbered (some 9) (some "Invalid file descriptor: -1")

end SystemError

end SctpProbe
