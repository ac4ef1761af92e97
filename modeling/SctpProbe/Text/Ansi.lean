set_option autoImplicit false

namespace SctpProbe.Text.Ansi

def escape : Char := '\x1b'

inductive Colour
  | cyan
  | green
  | yellow
  | red
  | brightRed
  deriving DecidableEq, Repr

def Colour.code : Colour → List Char
  | .cyan => ['3', '6']
  | .green => ['3', '2']
  | .yellow => ['3', '3']
  | .red => ['3', '1']
  | .brightRed => ['9', '1']

def sequence (parameters : List Char) : List Char := escape :: '[' :: parameters ++ ['m']

def reset : List Char := sequence ['0']

def coloured (colour : Option Colour) (text : List Char) : List Char :=
  (match colour with
    | some c => sequence c.code
    | none => []) ++ text ++ reset

def bold (text : List Char) : List Char := sequence ['1'] ++ text ++ reset

def isParameter (c : Char) : Bool := 0x30 ≤ c.toNat && c.toNat ≤ 0x3F

def isIntermediate (c : Char) : Bool := 0x20 ≤ c.toNat && c.toNat ≤ 0x2F

def isFinal (c : Char) : Bool := 0x40 ≤ c.toNat && c.toNat ≤ 0x7E

def tail? (cs : List Char) : Option (List Char) :=
  match (cs.dropWhile isParameter).dropWhile isIntermediate with
  | c :: r => if isFinal c then some r else none
  | [] => none

theorem length_tail? {cs rest : List Char} (h : tail? cs = some rest) :
    rest.length < cs.length := by
  have hp := (List.dropWhile_suffix isParameter (l := cs)).length_le
  have hi := (List.dropWhile_suffix isIntermediate (l := cs.dropWhile isParameter)).length_le
  unfold tail? at h
  split at h
  · next c r e =>
    rw [e, List.length_cons] at hi
    split at h
    · simp only [Option.some.injEq] at h
      subst h
      omega
    · simp at h
  · simp at h

/-- The sequence at the start of a text ends where the returned text begins. -/
def skip? : List Char → Option (List Char)
  | a :: b :: r => if a = escape ∧ b = '[' then tail? r else none
  | _ => none

theorem length_skip? {cs rest : List Char} (h : skip? cs = some rest) :
    rest.length < cs.length := by
  match cs with
  | [] => simp [skip?] at h
  | [_] => simp [skip?] at h
  | a :: b :: r =>
    simp only [skip?] at h
    split at h
    · have := length_tail? h
      simp only [List.length_cons]
      omega
    · simp at h

def strip (cs : List Char) : List Char :=
  match h : skip? cs with
  | some rest =>
    have := length_skip? h
    strip rest
  | none =>
    match cs with
    | [] => []
    | c :: r => c :: strip r
termination_by cs.length

theorem strip_of_not_mem {cs : List Char} (h : escape ∉ cs) : strip cs = cs := by
  induction cs with
  | nil =>
    rw [strip]
    rfl
  | cons c r ih =>
    rw [List.mem_cons, not_or] at h
    have hs : skip? (c :: r) = none := by
      cases r with
      | nil => rfl
      | cons d r => simp [skip?, Ne.symm h.1]
    rw [strip]
    split
    · next hr => simp [hs] at hr
    · simp [ih h.2]

end SctpProbe.Text.Ansi
