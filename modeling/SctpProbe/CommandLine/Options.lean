import SctpProbe.Text.Similarity
import SctpProbe.Text.Split
set_option autoImplicit false

/-!
Reading a command line. Options may stand anywhere; short ones may be joined behind one dash, and a
value may be attached to its option or follow it. A double dash ends the options. What is read is a
list of the options in their order and of all other arguments.
-/

namespace SctpProbe.CommandLine

inductive Key
  | port
  | buffer
  | sequenced
  | echo
  | verbose
  | host
  | logLevel
  | version
  | help
  deriving DecidableEq, Repr

namespace Key

def all : List Key := [.port, .buffer, .sequenced, .echo, .verbose, .host, .logLevel,
    .version, .help]

def short? : Key → Option Char
  | .port => some 'p'
  | .buffer => some 'b'
  | .sequenced => some 's'
  | .echo => some 'e'
  | .verbose => some 'v'
  | .help => some 'H'
  | .host => none
  | .logLevel => none
  | .version => none

def long : Key → String
  | .port => "--port"
  | .buffer => "--buf"
  | .sequenced => "--seq"
  | .echo => "--echo"
  | .verbose => "--verbose"
  | .host => "--host"
  | .logLevel => "--log-level"
  | .version => "--version"
  | .help => "--help"

def takesValue : Key → Bool
  | .port => true
  | .buffer => true
  | .host => true
  | .logLevel => true
  | _ => false

def ofShort? (c : Char) : Option Key := all.find? fun k => k.short? == some c

def ofLong? (s : String) : Option Key := all.find? fun k => k.long == s

end Key

inductive UsageError
  | missingValue (option : String)
  | unwantedValue (option : String)
  | unknownShort (option : String)
  | unknownLong (option : String) (similar : List String)
  | notInteger (key : Key) (text : String)
  | outOfRange (key : Key) (n : Int)
  | unknownLevel (text : String)
  | extraArguments (arguments : List String)
  deriving DecidableEq, Repr

structure Given where
  key : Key
  value : String
  deriving DecidableEq, Repr

structure Parsed where
  options : List Given
  arguments : List String
  deriving DecidableEq, Repr

def shortName (c : Char) : String := String.ofList ['-', c]

/-- The short options joined in one argument, and what is left of the arguments behind it: the last
option may take what follows its letter, or the next argument, as its value. -/
def readShorts : List Char → List String → Except UsageError (List Given × List String)
  | [], rest => .ok ([], rest)
  | c :: cs, rest =>
    match Key.ofShort? c with
    | none => .error (.unknownShort (shortName c))
    | some k =>
      if k.takesValue then
        match cs, rest with
        | _ :: _, _ => .ok ([⟨k, String.ofList cs⟩], rest)
        | [], v :: rest => .ok ([⟨k, v⟩], rest)
        | [], [] => .error (.missingValue (shortName c))
      else do
        let (given, rest) ← readShorts cs rest
        return (⟨k, ""⟩ :: given, rest)

/-- A long option and its value, attached to it or taken from the arguments behind it. -/
def readLong (k : Key) (attached? : Option String) (rest : List String) :
    Except UsageError (Given × List String) :=
  if k.takesValue then
    match attached?, rest with
    | some v, _ => .ok (⟨k, v⟩, rest)
    | none, v :: rest => .ok (⟨k, v⟩, rest)
    | none, [] => .error (.missingValue k.long)
  else
    match attached? with
    | some _ => .error (.unwantedValue k.long)
    | none => .ok (⟨k, ""⟩, rest)

def splitAttached (cs : List Char) : List Char × Option String :=
  match cs.dropWhile (· != '=') with
  | [] => (cs, none)
  | _ :: v => (cs.takeWhile (· != '='), some (String.ofList v))

def similar (name : List Char) : List String :=
  ((Text.closest 3 name (Key.all.map fun k => k.long.toList)).map String.ofList).mergeSort
    fun a b => !decide (b < a)

def readOption (cs : List Char) (rest : List String) :
    Except UsageError (List Given × List String) :=
  let name := splitAttached cs
  match Key.ofLong? (String.ofList name.1) with
  | some k => do
    let (given, rest) ← readLong k name.2 rest
    return ([given], rest)
  | none =>
    if cs.take 2 = ['-', '-'] then .error (.unknownLong (String.ofList name.1) (similar name.1))
    else readShorts cs.tail rest

theorem length_readShorts {cs : List Char} {rest : List String} {r : List Given × List String}
    (h : readShorts cs rest = .ok r) : r.2.length ≤ rest.length := by
  induction cs generalizing r with
  | nil =>
    simp only [readShorts, Except.ok.injEq] at h
    simp [← h]
  | cons c cs ih =>
    simp only [readShorts] at h
    split at h
    · simp at h
    · split at h
      · split at h
        · simp only [Except.ok.injEq] at h
          simp [← h]
        · simp only [Except.ok.injEq] at h
          simp [← h]
        · simp at h
      · cases hr : readShorts cs rest with
        | error e => simp [hr, bind, Except.bind] at h
        | ok p =>
          simp only [hr, bind, Except.bind, pure, Except.pure, Except.ok.injEq] at h
          have := ih hr
          rw [← h]
          exact this

theorem length_readLong {k : Key} {attached? : Option String} {rest : List String}
    {r : Given × List String} (h : readLong k attached? rest = .ok r) :
    r.2.length ≤ rest.length := by
  unfold readLong at h
  split at h
  · split at h <;> simp at h
    all_goals simp [← h]
  · split at h <;> simp at h
    simp [← h]

theorem length_readOption {cs : List Char} {rest : List String} {r : List Given × List String}
    (h : readOption cs rest = .ok r) : r.2.length ≤ rest.length := by
  simp only [readOption] at h
  split at h
  · next k _ =>
    cases hr : readLong k (splitAttached cs).2 rest with
    | error e => simp [hr, bind, Except.bind] at h
    | ok p =>
      simp only [hr, bind, Except.bind, pure, Except.pure, Except.ok.injEq] at h
      rw [← h]
      exact length_readLong hr
  · split at h
    · simp at h
    · exact length_readShorts h

def isOption (cs : List Char) : Bool := cs.head? == some '-' && 1 < cs.length

def parse (args : List String) : Except UsageError Parsed :=
  match args with
  | [] => .ok ⟨[], []⟩
  | arg :: rest =>
    if arg = "--" then .ok ⟨[], rest⟩
    else if isOption arg.toList then
      match _h : readOption arg.toList rest with
      | .error e => .error e
      | .ok r => (parse r.2).map fun p => { p with options := r.1 ++ p.options }
    else (parse rest).map fun p => { p with arguments := arg :: p.arguments }
termination_by args.length
decreasing_by
  · exact Nat.lt_succ_of_le (length_readOption _h)
  · exact Nat.lt_succ_self _

end SctpProbe.CommandLine
