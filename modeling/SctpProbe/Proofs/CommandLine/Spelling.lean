import SctpProbe.CommandLine.Options
set_option autoImplicit false

namespace SctpProbe.CommandLine

/-- Letters behind one dash, with the arguments behind them: options without a value, and at the end
perhaps one with a value, which stands behind its letter or is the next argument. -/
inductive Letters : List Char → List String → List Given → List String → Prop
  | done (rest : List String) : Letters [] rest [] rest
  | flag {k : Key} {c : Char} {cs : List Char} {rest left : List String} {given : List Given}
    (letter : k.short? = some c) (bare : k.takesValue = false) (tail : Letters cs rest given left) :
    Letters (c :: cs) rest (⟨k, ""⟩ :: given) left
  | attached {k : Key} {c : Char} {cs : List Char} (rest : List String)
    (letter : k.short? = some c) (valued : k.takesValue = true) (some : cs ≠ []) :
    Letters (c :: cs) rest [⟨k, String.ofList cs⟩] rest
  | apart {k : Key} {c : Char} (value : String) (rest : List String)
    (letter : k.short? = some c) (valued : k.takesValue = true) :
    Letters [c] (value :: rest) [⟨k, value⟩] rest

/-- An argument that starts with a dash, with the arguments behind it: a long option, its value
attached by an equals sign or the next argument, or letters. -/
inductive Dashed : String → List String → List Given → List String → Prop
  | flag {k : Key} (rest : List String) (bare : k.takesValue = false) :
    Dashed k.long rest [⟨k, ""⟩] rest
  | attached {k : Key} (value : String) (rest : List String) (valued : k.takesValue = true) :
    Dashed (k.long ++ "=" ++ value) rest [⟨k, value⟩] rest
  | apart {k : Key} (value : String) (rest : List String) (valued : k.takesValue = true) :
    Dashed k.long (value :: rest) [⟨k, value⟩] rest
  | letters {c : Char} {cs : List Char} {rest left : List String} {given : List Given}
    (letters : Letters (c :: cs) rest given left) :
    Dashed (String.ofList ('-' :: c :: cs)) rest given left

def Plain (arg : String) : Prop := arg = "-" ∨ ∀ cs, arg.toList ≠ '-' :: cs

/-- The options and the other arguments that a list of arguments stands for. -/
inductive Spelled : List String → List Given → List String → Prop
  | done : Spelled [] [] []
  | ended (rest : List String) : Spelled ("--" :: rest) [] rest
  | plain {arg : String} {rest : List String} {options : List Given} {arguments : List String}
    (plain : Plain arg) (tail : Spelled rest options arguments) :
    Spelled (arg :: rest) options (arg :: arguments)
  | dashed {arg : String} {rest left : List String} {given options : List Given}
    {arguments : List String} (head : Dashed arg rest given left)
    (tail : Spelled left options arguments) :
    Spelled (arg :: rest) (given ++ options) arguments

theorem Key.ofShort?_eq_some_iff {c : Char} {k : Key} :
    ofShort? c = some k ↔ k.short? = some c := by
  constructor
  · intro h
    have hk := List.find?_some h
    exact beq_iff_eq.1 hk
  · intro h
    cases k <;> cases h <;> decide

theorem Key.ofLong?_eq_some_iff {s : String} {k : Key} : ofLong? s = some k ↔ k.long = s := by
  constructor
  · intro h
    have hk := List.find?_some h
    exact beq_iff_eq.1 hk
  · rintro rfl
    cases k <;> decide

theorem Letters.of_readShorts {cs : List Char} {rest left : List String} {given : List Given}
    (h : readShorts cs rest = .ok (given, left)) : Letters cs rest given left := by
  induction cs generalizing given with
  | nil =>
    cases h
    exact .done rest
  | cons c cs ih =>
    rw [readShorts] at h
    split at h
    · cases h
    · next k hk =>
      have letter := Key.ofShort?_eq_some_iff.1 hk
      split at h
      · next valued =>
        split at h
        · cases h
          exact .attached rest letter valued (List.cons_ne_nil _ _)
        · cases h
          exact .apart _ _ letter valued
        · cases h
      · next bare =>
        cases hr : readShorts cs rest with
        | error e => simp [hr, bind, Except.bind] at h
        | ok r =>
          simp only [hr, bind, Except.bind, pure, Except.pure, Except.ok.injEq, Prod.mk.injEq] at h
          obtain ⟨rfl, rfl⟩ := h
          exact .flag letter (by simpa using bare) (ih hr)

theorem Letters.readShorts_eq {cs : List Char} {rest left : List String} {given : List Given}
    (h : Letters cs rest given left) : readShorts cs rest = .ok (given, left) := by
  induction h with
  | done rest => rfl
  | flag letter bare _ ih =>
    rw [readShorts, Key.ofShort?_eq_some_iff.2 letter]
    simp only [bare, ih]
    rfl
  | @attached k c cs rest letter valued some =>
    rw [readShorts, Key.ofShort?_eq_some_iff.2 letter]
    obtain ⟨d, ds, rfl⟩ := List.exists_cons_of_ne_nil some
    simp only [valued, if_true]
  | apart value rest letter valued =>
    rw [readShorts, Key.ofShort?_eq_some_iff.2 letter]
    simp only [valued, if_true]

/-- An argument is its name, or its name and its value around an equals sign. -/
theorem splitAttached_append_eq (cs : List Char) :
    (splitAttached cs).1 ++ (splitAttached cs).2.elim [] (fun v => '=' :: v.toList) = cs := by
  unfold splitAttached
  split
  · simp
  · next c v hd =>
    have hc : c = '=' := by
      have hhead := List.head?_dropWhile_not (fun c : Char => c != '=') cs
      simpa [hd] using hhead
    subst hc
    rw [Option.elim_some, String.toList_ofList, ← hd, List.takeWhile_append_dropWhile]

theorem splitAttached_of_notMem {cs : List Char} (h : '=' ∉ cs) :
    splitAttached cs = (cs, none) := by
  have hall : ∀ c ∈ cs, (c != '=') = true := fun c hc => bne_iff_ne.2 fun he => h (he ▸ hc)
  have hdrop : (cs ++ []).dropWhile (· != '=') = [] := List.dropWhile_append_of_pos hall
  rw [List.append_nil] at hdrop
  rw [splitAttached, hdrop]

theorem splitAttached_append {cs : List Char} (h : '=' ∉ cs) (v : List Char) :
    splitAttached (cs ++ '=' :: v) = (cs, some (String.ofList v)) := by
  have hall : ∀ c ∈ cs, (c != '=') = true := fun c hc => bne_iff_ne.2 fun he => h (he ▸ hc)
  rw [splitAttached, List.dropWhile_append_of_pos hall, List.takeWhile_append_of_pos hall]
  simp

theorem Key.notMem_long (k : Key) : '=' ∉ k.long.toList := by
  cases k <;> decide

theorem Key.long_dashes (k : Key) : ∃ cs, k.long.toList = '-' :: '-' :: cs := by
  cases k <;> exact ⟨_, rfl⟩

def Key.written (k : Key) (attached? : Option String) : String :=
  attached?.elim k.long fun v => k.long ++ "=" ++ v

theorem Key.toList_written (k : Key) (attached? : Option String) :
    (k.written attached?).toList = k.long.toList ++ attached?.elim [] fun v => '=' :: v.toList := by
  cases attached? <;> simp [written]

theorem splitAttached_written (k : Key) (attached? : Option String) :
    splitAttached (k.written attached?).toList = (k.long.toList, attached?) := by
  rw [k.toList_written]
  cases attached? with
  | none => simp [splitAttached_of_notMem k.notMem_long]
  | some v => simp [splitAttached_append k.notMem_long]

theorem Dashed.of_readLong {k : Key} {attached? : Option String} {rest left : List String}
    {g : Given} (h : readLong k attached? rest = .ok (g, left)) :
    Dashed (k.written attached?) rest [g] left := by
  unfold readLong at h
  split at h
  · next valued =>
    match attached?, rest, h with
    | some v, _, rfl => exact .attached v _ valued
    | none, v :: rest, rfl => exact .apart v rest valued
  · next bare =>
    match attached?, h with
    | none, rfl => exact .flag _ (by simpa using bare)

theorem ofLong?_letters {c : Char} {cs : List Char} (h : c ≠ '-') :
    Key.ofLong? (String.ofList (splitAttached ('-' :: c :: cs)).1) = none := by
  cases hk : Key.ofLong? (String.ofList (splitAttached ('-' :: c :: cs)).1) with
  | none => rfl
  | some k =>
    have hlong := congrArg String.toList (Key.ofLong?_eq_some_iff.1 hk)
    obtain ⟨ds, hds⟩ := k.long_dashes
    rw [String.toList_ofList, hds] at hlong
    have hparts := splitAttached_append_eq ('-' :: c :: cs)
    rw [← hlong] at hparts
    simp only [List.cons_append, List.cons.injEq, true_and] at hparts
    exact absurd hparts.1.symm h

theorem isOption_iff {cs : List Char} : isOption cs = true ↔ ∃ c ds, cs = '-' :: c :: ds := by
  match cs with
  | [] => simp [isOption]
  | [c] => simp [isOption]
  | c :: d :: cs => simp [isOption]

theorem Dashed.of_readOption {arg : String} {rest left : List String} {given : List Given}
    (hoption : isOption arg.toList = true)
    (h : readOption arg.toList rest = .ok (given, left)) : Dashed arg rest given left := by
  simp only [readOption] at h
  split at h
  · next k hk =>
    cases hr : readLong k (splitAttached arg.toList).2 rest with
    | error e => simp [hr, bind, Except.bind] at h
    | ok r =>
      simp only [hr, bind, Except.bind, pure, Except.pure, Except.ok.injEq, Prod.mk.injEq] at h
      obtain ⟨rfl, rfl⟩ := h
      have hwritten : arg = k.written (splitAttached arg.toList).2 := by
        rw [← String.toList_inj, k.toList_written, Key.ofLong?_eq_some_iff.1 hk,
          String.toList_ofList, splitAttached_append_eq]
      rw [hwritten]
      exact .of_readLong hr
  · split at h
    · cases h
    -- No long option: what stands behind the dash is letters, of which a dash is none.
    · obtain ⟨c, cs, hcs⟩ := isOption_iff.1 hoption
      rw [hcs] at h
      have harg : arg = String.ofList ('-' :: c :: cs) := by rw [← hcs, String.ofList_toList]
      rw [harg]
      exact .letters (.of_readShorts h)

theorem Letters.ne_dash {c : Char} {cs : List Char} {rest left : List String} {given : List Given}
    (h : Letters (c :: cs) rest given left) : c ≠ '-' := by
  have hshort (k : Key) : k.short? ≠ some '-' := by cases k <;> decide
  rintro rfl
  cases h with
  | flag letter _ _ => exact hshort _ letter
  | attached _ letter _ _ => exact hshort _ letter
  | apart _ _ letter _ => exact hshort _ letter

theorem readOption_written {k : Key} (attached? : Option String) {rest left : List String}
    {g : Given} (h : readLong k attached? rest = .ok (g, left)) :
    readOption (k.written attached?).toList rest = .ok ([g], left) := by
  simp only [readOption, splitAttached_written, String.ofList_toList,
    Key.ofLong?_eq_some_iff.2 rfl, h]
  rfl

theorem Dashed.readOption_eq {arg : String} {rest left : List String} {given : List Given}
    (h : Dashed arg rest given left) : readOption arg.toList rest = .ok (given, left) := by
  cases h with
  | flag rest bare => exact readOption_written none (by simp [readLong, bare])
  | attached value rest valued =>
    exact readOption_written (some value) (by simp [readLong, valued])
  | apart value rest valued => exact readOption_written none (by simp [readLong, valued])
  | letters letters =>
    have hc := letters.ne_dash
    rw [String.toList_ofList, readOption, ofLong?_letters hc]
    simp [hc, letters.readShorts_eq]

theorem Dashed.isOption {arg : String} {rest left : List String} {given : List Given}
    (h : Dashed arg rest given left) : isOption arg.toList = true := by
  have hwritten (k : Key) (attached? : Option String) :
      CommandLine.isOption (k.written attached?).toList = true := by
    obtain ⟨cs, hcs⟩ := k.long_dashes
    rw [k.toList_written, hcs]
    exact isOption_iff.2 ⟨_, _, rfl⟩
  cases h with
  | @flag k rest _ => exact hwritten k none
  | @attached k value _ _ => exact hwritten k (some value)
  | @apart k _ _ _ => exact hwritten k none
  | letters letters =>
    rw [String.toList_ofList]
    exact isOption_iff.2 ⟨_, _, rfl⟩

theorem Dashed.ne_dashes {arg : String} {rest left : List String} {given : List Given}
    (h : Dashed arg rest given left) : arg ≠ "--" := by
  rintro rfl
  have hrefused : ∃ e, readOption "--".toList rest = .error e := ⟨_, rfl⟩
  obtain ⟨e, he⟩ := hrefused
  cases he.symm.trans h.readOption_eq

theorem plain_iff {arg : String} : Plain arg ↔ isOption arg.toList = false := by
  rw [← Bool.not_eq_true, isOption_iff, Plain, ← String.toList_inj]
  match arg.toList with
  | [] => simp
  | [c] => simpa [eq_comm] using Classical.em (c = '-')
  | c :: d :: cs => simp

theorem parse_dashed {arg : String} {rest left : List String} {given : List Given}
    (hne : arg ≠ "--") (hoption : isOption arg.toList = true)
    (hr : readOption arg.toList rest = .ok (given, left)) :
    parse (arg :: rest) =
      (parse left).map fun p => { p with options := given ++ p.options } := by
  rw [parse, if_neg hne, if_pos hoption]
  split
  · next e he => cases he.symm.trans hr
  · next r he =>
    obtain rfl := Except.ok.inj (he.symm.trans hr)
    rfl

theorem Spelled.of_parse {args : List String} {p : Parsed} (h : parse args = .ok p) :
    Spelled args p.options p.arguments := by
  -- Each call of the reader takes one argument, and with an option the value that belongs to it.
  fun_induction parse args generalizing p with
  | case1 =>
    cases h
    exact .done
  | case2 rest =>
    cases h
    exact .ended rest
  | case3 => cases h
  | case4 arg rest _ hoption r hr ih =>
    cases hleft : parse r.2 with
    | error e => simp [hleft, Except.map] at h
    | ok left =>
      simp only [hleft, Except.map, Except.ok.injEq] at h
      rw [← h]
      exact .dashed (.of_readOption hoption hr) (ih hleft)
  | case5 arg rest _ hoption ih =>
    cases hrest : parse rest with
    | error e => simp [hrest, Except.map] at h
    | ok tail =>
      simp only [hrest, Except.map, Except.ok.injEq] at h
      rw [← h]
      exact .plain (plain_iff.2 (by simpa using hoption)) (ih hrest)

theorem Spelled.parse_eq {args : List String} {options : List Given} {arguments : List String}
    (h : Spelled args options arguments) : parse args = .ok ⟨options, arguments⟩ := by
  induction h with
  | done => rw [parse]
  | ended rest => rw [parse, if_pos rfl]
  | plain plain _ ih =>
    rw [parse, if_neg, if_neg, ih]
    · rfl
    · simp [plain_iff.1 plain]
    · rintro rfl
      cases plain_iff.1 plain
  | dashed head _ ih =>
    rw [parse_dashed head.ne_dashes head.isOption head.readOption_eq, ih]
    rfl

/-- Reading a list of arguments yields what it spells, and fails if it spells nothing. -/
theorem parse_eq_ok_iff {args : List String} {p : Parsed} :
    parse args = .ok p ↔ Spelled args p.options p.arguments :=
  ⟨.of_parse, fun h => h.parse_eq⟩

end SctpProbe.CommandLine
