import SctpProbe.Text.Template
set_option autoImplicit false

namespace SctpProbe.Template

def plainly (name? : Option (List Char)) (position : Nat) : Conversion :=
  ⟨name?, Flags.ofChars [], .unset, .unset, some ('s', position)⟩

section

variable (total : Nat)

theorem piecesFrom_append {cs : List Char} (h : '%' ∉ cs) (rest : List Char) :
    piecesFrom total (cs ++ rest) = cs.map .literal ++ piecesFrom total rest := by
  induction cs with
  | nil => rfl
  | cons c r ih =>
    rw [List.mem_cons, not_or] at h
    rw [List.cons_append, piecesFrom, ih h.2]
    · rfl
    · exact fun _ he _ => h.1 he.symm
    · exact fun _ he _ => h.1 he.symm
    · exact fun he => h.1 he.symm

theorem readConversion_plain (name? : Option (List Char)) (r : List Char) :
    readConversion total name? ('s' :: r) = (plainly name? (total - r.length - 1), r) := by
  simp [readConversion, isFlag, readSize, isDigit, readPrecision, dropSizeLetter, plainly]

theorem piecesFrom_plain (r : List Char) :
    piecesFrom total ('%' :: 's' :: r) =
      .conversion (plainly none (total - r.length - 1)) :: piecesFrom total r := by
  rw [piecesFrom, readConversion_plain]
  all_goals simp

theorem readName?_append {name : List Char} (hopen : '(' ∉ name) (hclose : ')' ∉ name)
    (r : List Char) : readName? 0 (name ++ ')' :: r) = some (name, r) := by
  induction name with
  | nil => simp [readName?]
  | cons c cs ih =>
    rw [List.mem_cons, not_or] at hopen hclose
    simp [readName?, Ne.symm hopen.1, Ne.symm hclose.1, ih hopen.2 hclose.2]

theorem piecesFrom_named {name : List Char} (hopen : '(' ∉ name) (hclose : ')' ∉ name)
    (r : List Char) : piecesFrom total ('%' :: '(' :: (name ++ ')' :: 's' :: r)) =
      .conversion (plainly (some name) (total - r.length - 1)) :: piecesFrom total r := by
  have hname := readName?_append hopen hclose ('s' :: r)
  rw [piecesFrom]
  split
  · next hn => simp [hname] at hn
  · next found hf =>
    rw [hname, Option.some.injEq] at hf
    subst hf
    simp only [readConversion_plain]

end

theorem fillPieces_literals [Machine] (cs : List Char) (ps : List Piece) (s : Supply) :
    fillPieces (cs.map .literal ++ ps) s = (fillPieces ps s).map (cs ++ ·) := by
  induction cs with
  | nil => cases h : fillPieces ps s <;> simp [h, Except.map]
  | cons c r ih =>
    simp only [List.map_cons, List.cons_append, fillPieces, ih]
    cases fillPieces ps s <;> rfl

theorem fillConversion_plain [Machine] (position : Nat) (s : Supply) :
    fillConversion (plainly none position) s =
      s.take.bind fun taken => taken.1.shown.map fun t => (t.toList, taken.2) := by
  have hroom : ¬ Machine.memory < 0 := by omega
  simp only [fillConversion, plainly, widthOf, precisionOf, bind, pure, Except.pure, Except.bind]
  cases s.take with
  | error f => rfl
  | ok taken =>
    simp only [fieldOf, if_true]
    cases taken.1.shown with
    | error f => rfl
    | ok t => simp [Except.map, hroom, textField, Field.pad, Field.ofText, Flags.ofChars]

/-- A template with a single conversion, which is replaced by the text of the argument. -/
theorem fill_single [Machine] {before after : List Char} (hb : '%' ∉ before) (ha : '%' ∉ after)
    (v : Value) :
    fill (String.ofList (before ++ '%' :: 's' :: after)) (.tuple [v]) =
      v.shown.map fun t => String.ofList (before ++ t.toList ++ after) := by
  have hpieces (total : Nat) : piecesFrom total (before ++ '%' :: 's' :: after) =
      before.map .literal ++ .conversion (plainly none (total - after.length - 1)) ::
        after.map .literal := by
    have hafter := piecesFrom_append total ha []
    rw [List.append_nil, piecesFrom, List.append_nil] at hafter
    rw [piecesFrom_append total hb, piecesFrom_plain, hafter]
  rw [fill, pieces, String.toList_ofList, hpieces, fillPieces_literals, fillPieces,
    fillConversion_plain]
  simp only [Supply.ofValue, Supply.take, Except.bind, bind]
  cases v.shown with
  | error f => rfl
  | ok t =>
    have hrest := fillPieces_literals after [] ⟨none, []⟩
    rw [List.append_nil] at hrest
    simp [hrest, fillPieces, Supply.finish, Except.map, bind, Except.bind, pure, Except.pure]

def Supply.from (look : List Char → Except Fault Value) (s : Supply) : Supply :=
  { s with lookup? := some look }

section

variable (look : List Char → Except Fault Value) (c : Conversion) (s : Supply)

theorem take_from :
    (s.from look).take = s.take.map fun taken => (taken.1, taken.2.from look) := by
  cases hs : s.rest with
  | nil => simp [Supply.take, Supply.from, hs, Except.map]
  | cons v vs => simp [Supply.take, Supply.from, hs, Except.map]

theorem takeSize_from (limit : Nat) (target : String) :
    takeSize (s.from look) limit target =
      (takeSize s limit target).map fun taken => (taken.1, taken.2.from look) := by
  simp only [takeSize, take_from]
  cases s.take with
  | error f => rfl
  | ok taken =>
    simp only [Except.map, bind, Except.bind]
    split
    · rfl
    · split <;> rfl

theorem widthOf_from :
    widthOf c (s.from look) =
      (widthOf c s).map fun found => (found.1, found.2.1, found.2.2.from look) := by
  simp only [widthOf]
  split
  · rfl
  · split <;> rfl
  · rw [takeSize_from]
    cases takeSize s widthLimit "ssize_t" <;> rfl

theorem precisionOf_from :
    precisionOf c (s.from look) =
      (precisionOf c s).map fun found => (found.1, found.2.from look) := by
  simp only [precisionOf]
  split
  · rfl
  · split <;> rfl
  · rw [takeSize_from]
    cases takeSize s precisionLimit "int" <;> rfl

theorem fillConversion_from [Machine] (h : c.name? = none) :
    fillConversion c (s.from look) =
      (fillConversion c s).map fun filled => (filled.1, filled.2.from look) := by
  simp only [fillConversion, h, bind, pure, Except.pure, Except.bind, widthOf_from]
  cases widthOf c s with
  | error f => rfl
  | ok width =>
    simp only [Except.map, precisionOf_from]
    cases precisionOf c width.2.2 with
    | error f => rfl
    | ok precision =>
      simp only
      cases c.mark? with
      | none => rfl
      | some mark =>
        simp only [take_from]
        cases precision.2.take with
        | error f => rfl
        | ok taken =>
          simp only [Except.map]
          cases fieldOf c mark.1 mark.2 precision.1 taken.1 with
          | error f => rfl
          | ok field =>
            by_cases hroom : Machine.memory < width.1 <;>
              simp [hroom, throw, throwThe, MonadExceptOf.throw]

theorem fillConversion_select [Machine] {name : List Char} (h : c.name? = some name) :
    fillConversion c s = (s.select name).bind (fillConversion { c with name? := none }) := by
  simp only [fillConversion, h]
  rfl

/-- A conversion with a name puts the value behind it in the place of all arguments. -/
theorem fillConversion_named [Machine] {name : List Char} (h : c.name? = some name) :
    fillConversion c (s.from look) =
      (look name).bind fun v =>
        (fillConversion { c with name? := none } ⟨none, [v]⟩).map fun filled =>
          (filled.1, filled.2.from look) := by
  have hselect : (s.from look).select name =
      (look name).map fun v => Supply.from look ⟨none, [v]⟩ := rfl
  rw [fillConversion_select c _ h, hselect]
  cases look name with
  | error f => rfl
  | ok v => exact fillConversion_from look { c with name? := none } ⟨none, [v]⟩ rfl

end

theorem fillConversion_plain_named [Machine] (look : List Char → Except Fault Value)
    (name : List Char) (position : Nat) (s : Supply) :
    fillConversion (plainly (some name) position) (s.from look) =
      (look name).bind fun v => v.shown.map fun t => (t.toList, Supply.from look ⟨none, []⟩) := by
  have hunnamed : ({ plainly (some name) position with name? := none } : Conversion) =
      plainly none position := rfl
  rw [fillConversion_named look _ s rfl, hunnamed]
  cases look name with
  | error f => rfl
  | ok v =>
    simp only [Except.bind, fillConversion_plain, Supply.take]
    cases v.shown <;> rfl

def Named (ps : List Piece) : Prop := ∀ c, .conversion c ∈ ps → c.name? ≠ none

/-- What stands behind other names than those that are asked for does not count. -/
theorem fillPieces_named [Machine] {look look' : List Char → Except Fault Value} {ps : List Piece}
    (h : Named ps)
    (hl : ∀ c name, .conversion c ∈ ps → c.name? = some name → look name = look' name)
    (s s' : Supply) : fillPieces ps (s.from look) = fillPieces ps (s'.from look') := by
  induction ps generalizing s s' with
  | nil => rfl
  | cons p rest ih =>
    have ih := ih (fun c hc => h c (List.mem_cons_of_mem p hc))
      fun c name hc => hl c name (List.mem_cons_of_mem p hc)
    cases p with
    | literal c => simp only [fillPieces, ih s s']
    | openName => rfl
    | conversion c =>
      cases hn : c.name? with
      | none => exact absurd hn (h c List.mem_cons_self)
      | some name =>
        have hlook := hl c name List.mem_cons_self hn
        simp only [fillPieces, fillConversion_named _ c _ hn, hlook]
        cases look' name with
        | error f => rfl
        | ok v =>
          simp only [Except.bind, bind]
          cases fillConversion { c with name? := none } ⟨none, [v]⟩ with
          | error f => rfl
          | ok filled => simp only [Except.map, ih filled.2 filled.2]

section

variable (total : Nat)

theorem readSize_suffix (cs : List Char) : (readSize cs).2 <:+ cs := by
  unfold readSize
  split
  · exact List.suffix_cons _ _
  · split
    · exact List.suffix_refl _
    · exact List.dropWhile_suffix isDigit

theorem readPrecision_suffix (cs : List Char) : (readPrecision cs).2 <:+ cs := by
  unfold readPrecision
  split
  · next r =>
    have h := (readSize_suffix r).trans (List.suffix_cons '.' r)
    split
    · next e => rwa [e] at h
    · exact h
  · exact List.suffix_refl _

theorem dropSizeLetter_suffix (cs : List Char) : dropSizeLetter cs <:+ cs := by
  unfold dropSizeLetter
  split <;> first | exact List.suffix_cons _ _ | exact List.suffix_refl _

theorem readConversion_suffix (name? : Option (List Char)) (cs : List Char) :
    (readConversion total name? cs).2 <:+ cs := by
  have hflags := List.dropWhile_suffix isFlag (l := cs)
  have hwidth := (readSize_suffix _).trans hflags
  have hprecision := (readPrecision_suffix _).trans hwidth
  have hletter := (dropSizeLetter_suffix _).trans hprecision
  simp only [readConversion]
  split
  · exact List.nil_suffix
  · next e =>
    rw [e] at hletter
    exact (List.suffix_cons _ _).trans hletter

theorem name_readConversion (name? : Option (List Char)) (cs : List Char) :
    (readConversion total name? cs).1.name? = name? := by
  simp only [readConversion]
  split <;> rfl

theorem eq_of_readName? {depth : Nat} {cs name rest : List Char}
    (h : readName? depth cs = some (name, rest)) : cs = name ++ ')' :: rest := by
  induction cs generalizing depth name with
  | nil => cases h
  | cons c r ih =>
    simp only [readName?] at h
    split at h
    · next hc =>
      cases h
      rw [hc.1]
      rfl
    · obtain ⟨⟨inner, rest⟩, hi, hf⟩ := Option.map_eq_some_iff.1 h
      cases hf
      rw [ih hi, List.cons_append]

theorem infix_of_mem_piecesFrom {cs : List Char} {c : Conversion} {name : List Char}
    (hc : .conversion c ∈ piecesFrom total cs) (hn : c.name? = some name) :
    '%' :: '(' :: (name ++ [')']) <:+: cs := by
  fun_induction piecesFrom total cs with
  | case1 => simp at hc
  | case2 r ih =>
    have hr := ih (by simpa using hc)
    exact hr.trans ((List.suffix_cons _ _).trans (List.suffix_cons _ _)).isInfix
  | case3 r h => simp at hc
  | case4 r found h _ _ ih =>
    rcases List.mem_cons.1 hc with hc | hc
    · obtain rfl := Piece.conversion.inj hc
      rw [name_readConversion, Option.some.injEq] at hn
      rw [eq_of_readName? h, hn]
      exact ⟨[], found.2, by simp⟩
    · have hrest : found.2 <:+ '%' :: '(' :: r := by
        rw [eq_of_readName? h]
        exact ⟨'%' :: '(' :: (found.1 ++ [')']), by simp⟩
      exact (ih hc).trans ((readConversion_suffix total _ _).trans hrest).isInfix
  | case5 r _ _ _ ih =>
    rcases List.mem_cons.1 hc with hc | hc
    · obtain rfl := Piece.conversion.inj hc
      rw [name_readConversion] at hn
      cases hn
    · exact (ih hc).trans ((readConversion_suffix total _ _).trans (List.suffix_cons '%' r)).isInfix
  | case6 c r _ _ _ ih =>
    have hr := ih (by simpa using hc)
    exact hr.trans (List.suffix_cons c r).isInfix

end

end SctpProbe.Template
