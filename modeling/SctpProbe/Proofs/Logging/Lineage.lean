import SctpProbe.Log.Loggers
set_option autoImplicit false

namespace SctpProbe.Log

/-- A name that is another one with parts behind dots put to it. -/
inductive Under (upper : List Char) : List Char → Prop
  | here : Under upper upper
  | part {name part : List Char} (h : Under upper name) (hd : '.' ∉ part) (hne : part ≠ []) :
    Under upper (name ++ '.' :: part)

section

variable {name part upper : List Char}

theorem aboveBackwards_append (hd : '.' ∉ part) (cs : List Char) :
    aboveBackwards (part ++ '.' :: cs) = aboveBackwards ('.' :: cs) := by
  induction part with
  | nil => rfl
  | cons c r ih =>
    rw [List.mem_cons, not_or] at hd
    have hskip (d : Char) (r : List Char) :
        aboveBackwards (c :: d :: r) = aboveBackwards (d :: r) := by
      rw [aboveBackwards, if_neg (Ne.symm hd.1)]
    rw [← ih hd.2]
    cases r with
    | nil => exact hskip _ _
    | cons d r => exact hskip _ _

theorem aboveBackwards_tail {d : Char} (h : d ≠ '.') (r : List Char) :
    aboveBackwards (d :: r) = aboveBackwards r := by
  cases r with
  | nil => rfl
  | cons e r => rw [aboveBackwards, if_neg h]

theorem above_part (hlast : ∀ c ∈ name.getLast?, c ≠ '.') (hne : name ≠ []) (hd : '.' ∉ part) :
    above (name ++ '.' :: part) = name :: above name := by
  obtain ⟨d, r, hr⟩ : ∃ d r, name.reverse = d :: r :=
    List.exists_cons_of_ne_nil (by simpa using hne)
  have hname : name = (d :: r).reverse := by rw [← hr, List.reverse_reverse]
  have hd' : d ≠ '.' := by
    refine hlast d ?_
    rw [hname]
    simp
  have hreverse : (name ++ '.' :: part).reverse = part.reverse ++ '.' :: d :: r := by
    simp [hr]
  have habove : aboveBackwards ('.' :: d :: r) = (d :: r) :: aboveBackwards r := by
    rw [aboveBackwards, if_pos rfl]
  rw [above, above, hreverse, aboveBackwards_append (by simpa using hd), habove, hr,
    aboveBackwards_tail hd', List.map_cons, ← hname]

theorem Under.ne_nil (h : Under upper name) (hne : upper ≠ []) : name ≠ [] := by
  cases h with
  | here => exact hne
  | part => simp

theorem Under.last_ne_dot (h : Under upper name) (hlast : ∀ c ∈ upper.getLast?, c ≠ '.') :
    ∀ c ∈ name.getLast?, c ≠ '.' := by
  cases h with
  | here => exact hlast
  | @part name part _ hd hne =>
    intro c hc he
    have hpart : c ∈ part.getLast? := by
      obtain ⟨d, r, rfl⟩ := List.exists_cons_of_ne_nil hne
      simpa using hc
    exact hd (he ▸ List.mem_of_getLast? hpart)

variable {known : List Char → Bool}

theorem lineage_eq (known : List Char → Bool) (name : List Char) :
    lineage known name = name :: ((nearest? known name).elim [] (lineage known)) := by
  rw [lineage]
  split
  · next h => simp [h]
  · next h => simp [h]

theorem mem_lineage_of_under (hk : known upper = true) (hne : upper ≠ [])
    (hlast : ∀ c ∈ upper.getLast?, c ≠ '.') (h : Under upper name) :
    upper ∈ lineage known name := by
  induction h with
  | here => rw [lineage_eq]; exact List.mem_cons_self
  | @part name part h hd _ ih =>
    have habove : above (name ++ '.' :: part) = name :: above name :=
      above_part (h.last_ne_dot hlast) (h.ne_nil hne) hd
    rw [lineage_eq]
    refine List.mem_cons_of_mem _ ?_
    cases hname : known name with
    | true =>
      have hnearest : nearest? known (name ++ '.' :: part) = some name := by
        rw [nearest?, habove, List.find?_cons_of_pos hname]
      rw [hnearest]
      exact ih
    | false =>
      -- A logger that does not exist is passed over, and the way goes on as from its name.
      have hnearest : nearest? known (name ++ '.' :: part) = nearest? known name := by
        rw [nearest?, habove, List.find?_cons_of_neg (by simp [hname])]
        rfl
      have hother : upper ≠ name := by
        rintro rfl
        rw [hk] at hname
        cases hname
      rw [hnearest]
      rw [lineage_eq] at ih
      exact List.mem_of_ne_of_mem hother ih

/-- What follows a name on a way up is the way up from there. -/
theorem lineage_split : ∀ name : List Char, upper ∈ lineage known name →
    ∃ before, lineage known name = before ++ lineage known upper ∧ upper ∉ before
  | name, h => by
    by_cases hu : upper = name
    · exact ⟨[], by rw [hu]; rfl, List.not_mem_nil⟩
    · rw [lineage_eq] at h
      have htail := List.mem_of_ne_of_mem hu h
      cases hn : nearest? known name with
      | none => simp [hn] at htail
      | some p =>
        rw [hn] at htail
        have hlength := length_above (List.mem_of_find?_eq_some hn)
        obtain ⟨before, hbefore, hnot⟩ := lineage_split p htail
        refine ⟨name :: before, ?_, ?_⟩
        · rw [lineage_eq, hn]
          exact congrArg (name :: ·) hbefore
        · rw [List.mem_cons, not_or]
          exact ⟨hu, hnot⟩
termination_by name => name.length

theorem lineage_of_no_dot (h : '.' ∉ name) : lineage known name = [name] := by
  have hback (cs : List Char) (h : '.' ∉ cs) : aboveBackwards cs = [] := by
    induction cs with
    | nil => rfl
    | cons c r ih =>
      rw [List.mem_cons, not_or] at h
      rw [aboveBackwards_tail (Ne.symm h.1), ih h.2]
  have hnearest : nearest? known name = none := by
    rw [nearest?, above, hback _ (by simpa using h)]
    rfl
  rw [lineage_eq, hnearest]
  rfl

end

namespace Logger

section

variable {ls : List Logger} (h : ∀ l ∈ ls, l = fresh)
include h

theorem threshold_fresh (up : List Logger) : threshold (ls ++ up) = threshold up := by
  induction ls with
  | nil => rfl
  | cons l rest ih =>
    rw [List.forall_mem_cons] at h
    rw [List.cons_append, threshold, h.1]
    exact ih h.2

theorem reached_fresh (up : List Logger) : reached (ls ++ up) = reached up := by
  induction ls with
  | nil => rfl
  | cons l rest ih =>
    rw [List.forall_mem_cons] at h
    rw [List.cons_append, reached, h.1]
    exact ih h.2

end

end Logger

end SctpProbe.Log
