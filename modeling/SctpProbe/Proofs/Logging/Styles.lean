import SctpProbe.Text.Ansi
set_option autoImplicit false

/-!
Taking the styles out of a text. `unstyle` removes every sequence that ends in `m` and leaves other
control sequences alone, as well as one that is not finished. Where a text is cut, styles can be
taken out of both parts unless a sequence goes across the cut, and none goes across a cut before an
escape character or a blank.
-/

namespace SctpProbe.Text.Ansi

def skipStyle? : List Char → Option (List Char)
  | a :: b :: r =>
    if a = escape ∧ b = '[' then
      match r.dropWhile isParameter with
      | 'm' :: rest => some rest
      | _ => none
    else none
  | _ => none

theorem length_skipStyle? {cs rest : List Char} (h : skipStyle? cs = some rest) :
    rest.length < cs.length := by
  match cs with
  | [] => simp [skipStyle?] at h
  | [_] => simp [skipStyle?] at h
  | a :: b :: r =>
    have hdrop := (List.dropWhile_suffix isParameter (l := r)).length_le
    simp only [skipStyle?] at h
    split at h
    · split at h
      · next e =>
        rw [e, List.length_cons] at hdrop
        simp only [Option.some.injEq] at h
        subst h
        simp only [List.length_cons]
        omega
      · simp at h
    · simp at h

def unstyle (cs : List Char) : List Char :=
  match h : skipStyle? cs with
  | some rest =>
    have := length_skipStyle? h
    unstyle rest
  | none =>
    match cs with
    | [] => []
    | c :: r => c :: unstyle r
termination_by cs.length

theorem unstyle_of_skipStyle? {cs rest : List Char} (h : skipStyle? cs = some rest) :
    unstyle cs = unstyle rest := by
  rw [unstyle]
  split
  · next hr =>
    rw [h, Option.some.injEq] at hr
    rw [hr]
  · next hn => simp [h] at hn

theorem unstyle_cons {c : Char} {r : List Char} (h : skipStyle? (c :: r) = none) :
    unstyle (c :: r) = c :: unstyle r := by
  rw [unstyle]
  split
  · next hr => simp [h] at hr
  · rfl

theorem skipStyle?_eq_none {c : Char} (h : c ≠ escape) (r : List Char) :
    skipStyle? (c :: r) = none := by
  cases r with
  | nil => rfl
  | cons d r => simp [skipStyle?, h]

theorem unstyle_append_of_not_mem {cs : List Char} (h : escape ∉ cs) (rest : List Char) :
    unstyle (cs ++ rest) = cs ++ unstyle rest := by
  induction cs with
  | nil => rfl
  | cons c r ih =>
    rw [List.mem_cons, not_or] at h
    rw [List.cons_append, unstyle_cons (skipStyle?_eq_none (Ne.symm h.1) _), ih h.2,
      List.cons_append]

/-- No style that begins before this text goes on in it. -/
def Severs (cs : List Char) : Prop :=
  ∀ c, cs.head? = some c → c ≠ '[' ∧ c ≠ 'm' ∧ isParameter c = false

theorem severs_escape (cs : List Char) : Severs (escape :: cs) := by
  intro c h
  obtain rfl : escape = c := Option.some.inj h
  decide

theorem severs_blank (cs : List Char) : Severs (' ' :: cs) := by
  intro c h
  obtain rfl : ' ' = c := Option.some.inj h
  decide

theorem skipStyle?_append {rest : List Char} (h : Severs rest) {cs : List Char} (hne : cs ≠ []) :
    skipStyle? (cs ++ rest) = (skipStyle? cs).map (· ++ rest) := by
  match cs with
  | [] => exact absurd rfl hne
  | [a] =>
    cases rest with
    | nil => rfl
    | cons c rest => simp [skipStyle?, (h c rfl).1]
  | a :: b :: r =>
    simp only [List.cons_append, skipStyle?]
    split
    · rw [List.dropWhile_append]
      cases hd : r.dropWhile isParameter with
      | nil =>
        cases rest with
        | nil => rfl
        | cons c rest =>
          obtain ⟨-, hm, hp⟩ := h c rfl
          simp [hp, hm]
      | cons d ds =>
        by_cases hm : d = 'm'
        · subst hm
          simp
        · simp [hm]
    · rfl

theorem unstyle_append {rest : List Char} (h : Severs rest) (cs : List Char) :
    unstyle (cs ++ rest) = unstyle cs ++ unstyle rest := by
  fun_induction unstyle cs with
  | case1 cs ds hs _ ih =>
    have hne : cs ≠ [] := by
      rintro rfl
      cases hs
    rw [unstyle_of_skipStyle? (by rw [skipStyle?_append h hne, hs, Option.map_some]), ih]
  | case2 => rfl
  | case3 c r hs ih =>
    have hskip : skipStyle? (c :: (r ++ rest)) = none := by
      rw [← List.cons_append, skipStyle?_append h (List.cons_ne_nil c r), hs, Option.map_none]
    rw [List.cons_append, unstyle_cons hskip, ih, List.cons_append]

theorem unstyle_sequence {ps : List Char} (h : ps.all isParameter = true)
    (rest : List Char) : unstyle (sequence ps ++ rest) = unstyle rest := by
  have hm : isParameter 'm' = false := by decide
  apply unstyle_of_skipStyle?
  simp only [sequence, List.cons_append, List.append_assoc, skipStyle?, and_self, if_true]
  rw [List.dropWhile_append_of_pos (List.all_eq_true.1 h)]
  simp [hm]

theorem unstyle_reset (rest : List Char) : unstyle (reset ++ rest) = unstyle rest :=
  unstyle_sequence (by decide) rest

theorem unstyle_coloured (colour? : Option Colour) {cs : List Char} (h : escape ∉ cs)
    (rest : List Char) : unstyle (coloured colour? cs ++ rest) = cs ++ unstyle rest := by
  have hcode (c : Colour) : c.code.all isParameter = true := by
    cases c <;> decide
  cases colour? with
  | none =>
    simp only [coloured, List.nil_append, List.append_assoc]
    rw [unstyle_append_of_not_mem h, unstyle_reset]
  | some c =>
    simp only [coloured, List.append_assoc]
    rw [unstyle_sequence (hcode c), unstyle_append_of_not_mem h, unstyle_reset]

/-- A text in bold may hold anything, even a style that it does not finish. -/
theorem unstyle_bold (cs rest : List Char) :
    unstyle (bold cs ++ rest) = unstyle cs ++ unstyle rest := by
  have hcut : Severs (reset ++ rest) := severs_escape _
  simp only [bold, List.append_assoc]
  rw [unstyle_sequence (by decide), unstyle_append hcut, unstyle_reset]

end SctpProbe.Text.Ansi
