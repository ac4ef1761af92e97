import SctpProbe.Log.Entry
set_option autoImplicit false

/-!
Names of loggers. The logger above another one is the nearest that exists, and its name tells which
ones may be above: what stands before a dot, where of dots in a row every second one is passed over.
Names above a name are shorter (`length_above`), so the way up ends.
-/

namespace SctpProbe.Log

/-- The names above a name that is written backwards, nearest first and backwards as well. -/
def aboveBackwards : List Char → List (List Char)
  | [] => []
  | [_] => []
  | c :: d :: r => if c = '.' then (d :: r) :: aboveBackwards r else aboveBackwards (d :: r)

def above (name : List Char) : List (List Char) := (aboveBackwards name.reverse).map List.reverse

theorem length_aboveBackwards {cs p : List Char} (h : p ∈ aboveBackwards cs) :
    p.length < cs.length := by
  fun_induction aboveBackwards cs with
  | case1 => simp at h
  | case2 => simp at h
  | case3 d r ih =>
    rcases List.mem_cons.1 h with rfl | h
    · simp
    · have := ih h
      simp only [List.length_cons]
      omega
  | case4 c d r _ ih =>
    have := ih h
    simp only [List.length_cons] at *
    omega

theorem length_above {name p : List Char} (h : p ∈ above name) : p.length < name.length := by
  obtain ⟨q, hq, rfl⟩ := List.mem_map.1 h
  have := length_aboveBackwards hq
  simpa using this

def nearest? (known : List Char → Bool) (name : List Char) : Option (List Char) :=
  (above name).find? known

/-- A name and the known ones above it, each the nearest to the one before. -/
def lineage (known : List Char → Bool) (name : List Char) : List (List Char) :=
  name ::
    match h : nearest? known name with
    | none => []
    | some p =>
      have := length_above (List.mem_of_find?_eq_some h)
      lineage known p
termination_by name.length

end SctpProbe.Log
