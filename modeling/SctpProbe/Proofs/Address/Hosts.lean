import SctpProbe.Proofs.Address.Reading
import SctpProbe.Word
set_option autoImplicit false

namespace SctpProbe

namespace Binary64

section

variable {c : Char} (hc : c.isAlphanum = false) (hminus : c ≠ '-') (hplus : c ≠ '+')

include hminus in
theorem not_mem_signText (negative : Bool) : c ∉ signText negative := by
  cases negative <;> simp [signText, hminus]

include hc hminus hplus in
theorem not_mem_exponentText (e : Int) : c ∉ exponentText e := by
  have hds := Text.not_mem_toDigits (Text.isDigit_of_not_isAlphanum hc) e.natAbs
  have hzero : c ≠ '0' := by
    rintro rfl
    cases hc
  simp only [exponentText]
  split <;> split <;> simp [hminus, hplus, hds, hzero]

theorem not_mem_dropTrailingZeros {ds : List Char} (h : c ∉ ds) : c ∉ dropTrailingZeros ds := by
  intro hm
  rw [dropTrailingZeros, List.mem_reverse] at hm
  exact h (List.mem_reverse.1 ((List.dropWhile_sublist _).subset hm))

theorem not_mem_positional {ds : List Char} (h : c ∉ ds) (hzero : c ≠ '0') (order : Int) :
    c ∉ (positional ds order).1 ∧ c ∉ (positional ds order).2 := by
  have htake (k : Nat) : c ∉ ds.take k := fun hm => h (List.mem_of_mem_take hm)
  have hdrop (k : Nat) : c ∉ ds.drop k := fun hm => h (List.mem_of_mem_drop hm)
  simp only [positional]
  split <;> simp [htake, hdrop, hzero, h]

include hc hminus hplus in
theorem count_written_le (x : Binary64) : x.written.count c ≤ if c = '.' then 1 else 0 := by
  have hne (d : Char) (hd : d.isAlphanum = true) : c ≠ d := by
    rintro rfl
    rw [hd] at hc
    cases hc
  have hsign (s : Bool) : (signText s).count c = 0 :=
    List.count_eq_zero.2 (not_mem_signText hminus s)
  have hpoint (ds : List Char) (h : c ∉ ds) : ('.' :: ds).count c = if c = '.' then 1 else 0 := by
    rw [List.count_cons, List.count_eq_zero.2 h]
    simp only [Nat.zero_add, beq_iff_eq, eq_comm (a := c)]
  unfold written
  split
  · rw [List.count_eq_zero.2 (by simp [hne])]
    exact Nat.zero_le _
  · rw [List.count_append, hsign, List.count_eq_zero.2 (by simp [hne])]
    exact Nat.zero_le _
  · rw [List.count_append, hsign, List.count_cons, hpoint ['0'] (by simp [hne])]
    simp [Ne.symm (hne '0' (by decide))]
  · next m e _ =>
    have hds := not_mem_dropTrailingZeros
      (Text.not_mem_toDigits (Text.isDigit_of_not_isAlphanum hc) (shortest m e).digits)
    simp only
    generalize dropTrailingZeros _ = ds at hds
    rw [List.count_append, hsign, Nat.zero_add]
    split
    · obtain ⟨hwhole, hfraction⟩ := not_mem_positional hds (hne '0' (by decide))
        ((shortest m e).exponent + (Nat.toDigits 10 (shortest m e).digits).length - 1)
      rw [List.count_append, List.count_eq_zero.2 hwhole, Nat.zero_add, hpoint]
      split
      · simp [hne]
      · exact hfraction
    · have hpower (e : Int) : ('e' :: exponentText e).count c = 0 :=
        List.count_eq_zero.2 (by simp [hne, not_mem_exponentText hc hminus hplus])
      rw [List.count_append, hpower, Nat.add_zero]
      split
      · simp
      · rw [List.count_eq_zero.2 hds]
        exact Nat.zero_le _
      · next d rest _ =>
        rw [List.mem_cons, not_or] at hds
        rw [List.count_cons, hpoint rest hds.2]
        simp [Ne.symm hds.1]

end

end Binary64

namespace Word

theorem foldl_eq_ofHighFirst (bs : List UInt8) :
    bs.foldl (fun n b => 256 * n + b.toNat) 0 = ofHighFirst bs := by
  have hfoldr (bs : List UInt8) :
      ofLowFirst bs = bs.foldr (fun b n => 256 * n + b.toNat) 0 := by
    induction bs with
    | nil => rfl
    | cons b rest ih => rw [ofLowFirst, ih, Nat.add_comm]; rfl
  rw [ofHighFirst, hfoldr, List.foldr_reverse]

end Word

namespace Address

/-- A value that stands for this address. -/
inductive Host : Value → Address → Prop
  | quad {n : Nat} (hn : n < 0x100000000) : Host (.text (String.ofList (quad n))) (.v4 n)
  | literal {s : String} {bits : Nat} (h : Literal6 s.toList bits) : Host (.text s) (.v6 bits)
  | small {v : Value} {n : Nat} (hv : v.int? = some n) (hn : n < Nat.pow 2 32) : Host v (.v4 n)
  | large {v : Value} {n : Nat} (hv : v.int? = some n) (hlow : Nat.pow 2 32 ≤ n)
    (hn : n < Nat.pow 2 128) : Host v (.v6 n)
  | packed4 {bs : List UInt8} (hl : bs.length = 4) : Host (.bytes bs) (.v4 (Word.ofHighFirst bs))
  | packed6 {bs : List UInt8} (hl : bs.length = 16) : Host (.bytes bs) (.v6 (Word.ofHighFirst bs))

theorem Literal6.head_mem {c : Char} {cs : List Char} {bits : Nat} (h : Literal6 (c :: cs) bits) :
    ∃ body gs, Body body gs ∧ c ∈ body := by
  generalize hcs : c :: cs = text at h
  cases h with
  | bare h => exact ⟨_, _, h, hcs ▸ List.mem_cons_self⟩
  | inScope h hne hp hs =>
    next body scope gs =>
    refine ⟨body, gs, h, ?_⟩
    cases body with
    | nil => exact absurd h.colon_mem (by simp)
    | cons d body =>
      rw [List.cons_append] at hcs
      exact (List.cons.inj hcs).1 ▸ List.mem_cons_self

theorem ofText?_cons_eq_none {c : Char} (hc : c.isAlphanum = false) (hdot : c ≠ '.')
    (hcolon : c ≠ ':') (cs : List Char) : ofText? (c :: cs) = none := by
  cases h : ofText? (c :: cs) with
  | none => rfl
  | some a =>
    cases a with
    | v4 n =>
      have hm := not_mem_quad (Text.isDigit_of_not_isAlphanum hc) hdot n
      rw [← (ofText?_eq_v4_iff.1 h).2] at hm
      exact absurd List.mem_cons_self hm
    | v6 bits =>
      obtain ⟨body, gs, hbody, hm⟩ := (ofText?_eq_v6_iff.1 h).head_mem
      exact absurd hm (hbody.not_mem hc hdot hcolon)

theorem count_quad (n : Nat) : (quad n).count '.' = 3 := by
  have h (k : Nat) : (Nat.toDigits 10 k).count '.' = 0 :=
    List.count_eq_zero.2 (Text.not_mem_toDigits rfl k)
  simp [quad, h]

/-- No floating-point number is printed as an address. -/
theorem ofText?_written_eq_none (x : Binary64) : ofText? x.written = none := by
  cases h : ofText? x.written with
  | none => rfl
  | some a =>
    cases a with
    | v4 n =>
      -- A dotted quad has three dots, a number one point.
      have hdots := x.count_written_le (c := '.') (by decide) (by decide) (by decide)
      rw [(ofText?_eq_v4_iff.1 h).2, count_quad] at hdots
      simp at hdots
    | v6 bits =>
      have hcolons := x.count_written_le (c := ':') (by decide) (by decide) (by decide)
      have hm := List.count_pos_iff.2 (ofText?_eq_v6_iff.1 h).colon_mem
      simp at hcolons
      omega

theorem ofValue?_of_int? {v : Value} {n : Int} (h : v.int? = some n) :
    ofValue? v = .ok (if n < 0 then none
      else if n < Nat.pow 2 32 then some (.v4 n.toNat)
      else if n < Nat.pow 2 128 then some (.v6 n.toNat)
      else none) := by
  cases v <;> simp only [Value.int?, Option.some.injEq, reduceCtorEq] at h <;> subst h <;>
    simp only [ofValue?, Value.int?] <;> split_ifs <;> rfl

theorem ofValue?_shown {v : Value} (hint : v.int? = none) (hbytes : ∀ bs, v ≠ .bytes bs) :
    ofValue? v = v.shown.map fun s => ofText? s.toList := by
  cases v with
  | bool b => simp [Value.int?] at hint
  | int n => simp [Value.int?] at hint
  | bytes bs => exact absurd rfl (hbytes bs)
  | _ => rfl

def openMark? : Value → Option Char
  | .tuple _ => some '('
  | .list _ => some '['
  | .mapping _ => some '\x7b'
  | _ => none

theorem head?_shown {v : Value} {s : String} {c : Char} (hs : v.shown = .ok s)
    (hc : openMark? v = some c) : s.toList.head? = some c := by
  cases v with
  | tuple vs =>
    cases hc
    rcases vs with _ | ⟨v, _ | ⟨w, vs⟩⟩ <;>
      simp only [Value.shown, Value.quoted, bind, Except.bind, pure, Except.pure] at hs <;>
      split at hs <;> cases hs <;> simp
  | list vs =>
    cases hc
    simp only [Value.shown, Value.quoted, bind, Except.bind, pure, Except.pure] at hs
    split at hs <;> cases hs
    simp
  | mapping es =>
    cases hc
    simp only [Value.shown, Value.quoted, bind, Except.bind, pure, Except.pure] at hs
    split at hs <;> cases hs
    simp
  | _ => cases hc

/-- What is neither a text nor a whole number nor bytes is not printed as an address. -/
theorem ofText?_shown_eq_none {v : Value} {s : String} (hs : v.shown = .ok s)
    (htext : ∀ t, v ≠ .text t) (hint : v.int? = none) (hbytes : ∀ bs, v ≠ .bytes bs) :
    ofText? s.toList = none := by
  have hmark {c : Char} (hc : openMark? v = some c) (halnum : c.isAlphanum = false)
      (hdot : c ≠ '.') (hcolon : c ≠ ':') : ofText? s.toList = none := by
    obtain ⟨cs, hcs⟩ := List.head?_eq_some_iff.1 (head?_shown hs hc)
    rw [hcs]
    exact ofText?_cons_eq_none halnum hdot hcolon cs
  cases v with
  | text t => exact absurd rfl (htext t)
  | bool b => simp [Value.int?] at hint
  | int n => simp [Value.int?] at hint
  | bytes bs => exact absurd rfl (hbytes bs)
  | nothing =>
    cases hs
    decide
  | float x =>
    cases hs
    rw [String.toList_ofList]
    exact ofText?_written_eq_none x
  | tuple vs => exact hmark rfl (by decide) (by decide) (by decide)
  | list vs => exact hmark rfl (by decide) (by decide) (by decide)
  | mapping es => exact hmark rfl (by decide) (by decide) (by decide)

theorem ofText?_eq_some_iff {s : String} {a : Address} :
    ofText? s.toList = some a ↔ Host (.text s) a := by
  constructor
  · intro h
    cases a with
    | v4 n =>
      obtain ⟨hn, hs⟩ := ofText?_eq_v4_iff.1 h
      obtain rfl : s = String.ofList (quad n) := by rw [← hs, String.ofList_toList]
      exact .quad hn
    | v6 bits => exact .literal (ofText?_eq_v6_iff.1 h)
  · rintro (hn | h | hv | hv | _ | _)
    · rw [String.toList_ofList]
      exact ofText?_eq_v4_iff.2 ⟨hn, rfl⟩
    · exact ofText?_eq_v6_iff.2 h
    · simp [Value.int?] at hv
    · simp [Value.int?] at hv

theorem ofValue?_eq_some_iff {v : Value} {a : Address} : ofValue? v = .ok (some a) ↔ Host v a := by
  constructor
  · intro h
    cases hint : v.int? with
    | some n =>
      rw [ofValue?_of_int? hint] at h
      simp only [Except.ok.injEq] at h
      split_ifs at h with hneg hlow hhigh
      all_goals
        obtain ⟨m, rfl⟩ := Int.eq_ofNat_of_zero_le (Int.not_lt.1 hneg)
        cases h
      · exact .small hint (Int.ofNat_lt.1 hlow)
      · exact .large hint (Int.ofNat_le.1 (Int.not_lt.1 hlow)) (Int.ofNat_lt.1 hhigh)
    | none =>
      by_cases hbytes : ∃ bs, v = .bytes bs
      · obtain ⟨bs, rfl⟩ := hbytes
        simp only [ofValue?, Word.foldl_eq_ofHighFirst] at h
        split_ifs at h with h4 h16 <;> cases h
        · exact .packed4 h4
        · exact .packed6 h16
      · rw [ofValue?_shown hint fun bs hv => hbytes ⟨bs, hv⟩] at h
        cases hs : v.shown with
        | error f => simp [hs, Except.map] at h
        | ok s =>
          simp only [hs, Except.map, Except.ok.injEq] at h
          by_cases htext : ∃ t, v = .text t
          · obtain ⟨t, rfl⟩ := htext
            cases hs
            exact ofText?_eq_some_iff.1 h
          · rw [ofText?_shown_eq_none hs (fun t ht => htext ⟨t, ht⟩) hint
              fun bs hv => hbytes ⟨bs, hv⟩] at h
            cases h
  · intro h
    cases h with
    | quad hn => exact congrArg Except.ok (ofText?_eq_some_iff.2 (.quad hn))
    | literal h => exact congrArg Except.ok (ofText?_eq_some_iff.2 (.literal h))
    | @small _ n hv hn =>
      have hlt : (n : Int) < (Nat.pow 2 32 : Nat) := Int.ofNat_lt.2 hn
      rw [ofValue?_of_int? hv, if_neg (by omega), if_pos hlt]
      rfl
    | @large _ n hv hlow hn =>
      have hge : ¬ (n : Int) < (Nat.pow 2 32 : Nat) := Int.not_lt.2 (Int.ofNat_le.2 hlow)
      have hlt : (n : Int) < (Nat.pow 2 128 : Nat) := Int.ofNat_lt.2 hn
      rw [ofValue?_of_int? hv, if_neg (by omega), if_neg hge, if_pos hlt]
      rfl
    | packed4 hl => simp only [ofValue?, Word.foldl_eq_ofHighFirst, hl, if_true]
    | packed6 hl => simp [ofValue?, Word.foldl_eq_ofHighFirst, hl]

theorem ofValue_eq_ok_iff {v : Value} {a : Address} : ofValue v = .ok a ↔ Host v a := by
  rw [← ofValue?_eq_some_iff]
  unfold ofValue
  cases ofValue? v with
  | error f => simp [bind, Except.bind]
  | ok a? =>
    cases a? with
    | some b => simp [bind, Except.bind, pure, Except.pure]
    | none =>
      simp only [bind, Except.bind]
      split <;> simp [throw, throwThe, MonadExceptOf.throw]

end Address

end SctpProbe
