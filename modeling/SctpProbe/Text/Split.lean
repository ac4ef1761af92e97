set_option autoImplicit false

namespace SctpProbe.Text

def split (sep : Char) : List Char → List (List Char)
  | [] => [[]]
  | c :: r =>
    if c = sep then [] :: split sep r
    else match split sep r with
      | [] => [[c]]
      | p :: ps => (c :: p) :: ps

theorem split_ne_nil (sep : Char) (cs : List Char) : split sep cs ≠ [] := by
  cases cs with
  | nil => simp [split]
  | cons c r =>
    simp only [split]
    split
    · simp
    · split <;> simp

theorem intercalate_split (sep : Char) (cs : List Char) :
    [sep].intercalate (split sep cs) = cs := by
  induction cs with
  | nil => rfl
  | cons c r ih =>
    simp only [split]
    split
    · next h =>
      cases hs : split sep r with
      | nil => exact absurd hs (split_ne_nil sep r)
      | cons p ps =>
        rw [hs] at ih
        subst h
        simpa [List.intercalate] using ih
    · cases hs : split sep r with
      | nil => exact absurd hs (split_ne_nil sep r)
      | cons p ps =>
        rw [hs] at ih
        cases ps with
        | nil => simpa [List.intercalate] using ih
        | cons q qs => simpa [List.intercalate] using ih

theorem split_of_not_mem {sep : Char} {cs : List Char} (h : sep ∉ cs) : split sep cs = [cs] := by
  induction cs with
  | nil => rfl
  | cons c r ih =>
    rw [List.mem_cons, not_or] at h
    simp [split, Ne.symm h.1, ih h.2]

theorem split_append_cons {sep : Char} {cs : List Char} (h : sep ∉ cs) (rest : List Char) :
    split sep (cs ++ sep :: rest) = cs :: split sep rest := by
  induction cs with
  | nil => simp [split]
  | cons c r ih =>
    rw [List.mem_cons, not_or] at h
    simp [split, Ne.symm h.1, ih h.2]

end SctpProbe.Text
