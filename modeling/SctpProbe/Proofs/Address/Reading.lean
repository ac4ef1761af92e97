import SctpProbe.Proofs.Address.Gaps
set_option autoImplicit false

namespace SctpProbe.Address

theorem expand?_append (as : List (List Char)) {bs : List (List Char)} (h : bs ≠ []) :
    expand? (as ++ bs) = (expand? bs).map (as ++ ·) := by
  induction as with
  | nil => simp
  | cons a rest ih =>
    have hne : rest ++ bs ≠ [] := by simp [h]
    rw [List.cons_append]
    generalize rest ++ bs = tail at ih hne
    cases tail with
    | nil => exact absurd rfl hne
    | cons p ps =>
      rw [expand?, ih, Option.map_map]
      · rfl
      · simp

/-- Expanding the last place leaves a gap where it is. -/
theorem exists_of_expand?_gap {ps as : List (List Char)} {ls : List (List Char)}
    (h : expand? ps = some (as ++ [] :: orBlank ls)) :
    ∃ bs, ps = as ++ [] :: bs ∧ expand? bs = some (orBlank ls) := by
  rcases expand?_eq_some_iff.1 h with ⟨hdot, rfl⟩ | ⟨init, n, hn, rfl, hqs⟩
  · refine ⟨orBlank ls, rfl, expand?_eq_some_iff.2 (.inl ⟨?_, rfl⟩)⟩
    obtain ⟨q, qs, hq⟩ := List.exists_cons_of_ne_nil (orBlank_ne_nil ls)
    rw [hq] at hdot ⊢
    simpa using hdot
  · rcases List.eq_nil_or_concat (orBlank ls) with hl | ⟨front, last, hl⟩
    · exact absurd hl (orBlank_ne_nil ls)
    · rw [hl] at hqs ⊢
      have hshape : as ++ [] :: front ++ [last] =
          init ++ [Nat.toDigits 16 (n / 65536)] ++ [Nat.toDigits 16 (n % 65536)] := by
        simpa using hqs
      obtain ⟨hfront, hlow⟩ := List.append_inj' hshape rfl
      cases hlow
      rcases List.eq_nil_or_concat front with rfl | ⟨front, last, rfl⟩
      · have hlast := (List.append_inj' hfront rfl).2
        simp only [List.cons.injEq, and_true] at hlast
        exact absurd hlast.symm Nat.toDigits_ne_nil
      · obtain ⟨rfl, hlast⟩ : as ++ [] :: front = init ∧ [last] = [Nat.toDigits 16 (n / 65536)] :=
          List.append_inj' (by simpa using hfront) rfl
        refine ⟨front ++ [quad n], by simp, expand?_eq_some_iff.2 (.inr ⟨front, n, hn, rfl, ?_⟩)⟩
        simp [List.cons.inj hlast]

theorem expand?_ne_nil {ps qs : List (List Char)} (hne : ps ≠ []) (h : expand? ps = some qs) :
    qs ≠ [] := by
  rcases expand?_eq_some_iff.1 h with ⟨-, rfl⟩ | ⟨init, n, -, -, rfl⟩
  · exact hne
  · simp

theorem orBlank_tail_iff {bs : List (List Char)} {low : List Nat} :
    (∃ ls, expand? bs = some (orBlank ls) ∧ Row ls low) ↔ ∃ ts, bs = orBlank ts ∧ Tail ts low := by
  constructor
  · rintro ⟨ls, hls, hrow⟩
    by_cases hl : ls = []
    · subst hl
      rcases expand?_eq_some_iff.1 hls with ⟨-, rfl⟩ | ⟨init, n, -, -, hqs⟩
      · exact ⟨[], rfl, .groups hrow⟩
      · have := congrArg List.length hqs
        simp [orBlank] at this
    · rw [orBlank_eq_self hl] at hls
      have hne : bs ≠ [] := by
        rintro rfl
        simp only [expand?, Option.some.injEq] at hls
        exact hl hls.symm
      exact ⟨bs, (orBlank_eq_self hne).symm, tail_iff.1 ⟨ls, hls, hrow⟩⟩
  · rintro ⟨ts, rfl, htail⟩
    obtain ⟨ls, hls, hrow⟩ := tail_iff.2 htail
    by_cases ht : ts = []
    · subst ht
      simp only [expand?, Option.some.injEq] at hls
      subst hls
      exact ⟨[], rfl, hrow⟩
    · rw [orBlank_eq_self ht]
      exact ⟨ls, by rw [hls, orBlank_eq_self (expand?_ne_nil ht hls)], hrow⟩

/-- What places between colons stand for, before the last one is expanded. -/
inductive Places : List (List Char) → List Nat → Prop
  | full {ps : List (List Char)} {gs : List Nat} (h : Tail ps gs) (hl : gs.length = 8) :
    Places ps gs
  | gap {hs ls : List (List Char)} {high low : List Nat} (hh : Row hs high) (hl : Tail ls low)
    (hlen : high.length + low.length ≤ 7) :
    Places (orBlank hs ++ [] :: orBlank ls) (filled high low)

theorem places_iff {ps : List (List Char)} {b : Nat} :
    (∃ qs, expand? ps = some qs ∧ bits? qs = some b) ↔ ∃ gs, Places ps gs ∧ b = joined gs := by
  constructor
  · rintro ⟨qs, hqs, hb⟩
    rcases bits?_eq_some_iff.1 hb with ⟨gs, hrow, hlen, rfl⟩ | ⟨hs, ls, high, low, rfl, hh, hl,
      hlen, rfl⟩
    · exact ⟨gs, .full (tail_iff.1 ⟨qs, hqs, hrow⟩) hlen, rfl⟩
    · obtain ⟨bs, rfl, hbs⟩ := exists_of_expand?_gap hqs
      obtain ⟨ts, rfl, htail⟩ := orBlank_tail_iff.1 ⟨ls, hbs, hl⟩
      exact ⟨_, .gap hh htail hlen, rfl⟩
  · rintro ⟨gs, ⟨htail, hlen⟩ | ⟨hh, hl, hlen⟩, rfl⟩
    · obtain ⟨qs, hqs, hrow⟩ := tail_iff.2 htail
      exact ⟨qs, hqs, bits?_eq_some_iff.2 (.inl ⟨gs, hrow, hlen, rfl⟩)⟩
    · next hs ts high low =>
      obtain ⟨ls, hls, hrow⟩ := orBlank_tail_iff.2 ⟨ts, rfl, hl⟩
      refine ⟨orBlank hs ++ [] :: orBlank ls, ?_, bits?_eq_some_iff.2
        (.inr ⟨hs, ls, high, low, rfl, hh, hrow, hlen, rfl⟩)⟩
      have hblank : expand? ([] :: orBlank ts) = some ([] :: orBlank ls) := by
        have := expand?_append [[]] (orBlank_ne_nil ts)
        rw [hls] at this
        exact this
      rw [expand?_append _ (by simp), hblank]
      rfl

theorem length_orBlank_le (ps : List (List Char)) : (orBlank ps).length ≤ max 1 ps.length := by
  unfold orBlank
  split
  · simp
  · exact Nat.le_max_right _ _

theorem length_le_of_bits? {ps : List (List Char)} {b : Nat} (h : bits? ps = some b) :
    ps.length ≤ 9 := by
  rcases bits?_eq_some_iff.1 h with ⟨gs, hrow, hlen, -⟩ | ⟨hs, ls, high, low, rfl, hh, hl, hlen, -⟩
  · rw [hrow.length_eq, hlen]
    decide
  · have h1 := length_orBlank_le hs
    have h2 := length_orBlank_le ls
    have h3 := hh.length_eq
    have h4 := hl.length_eq
    simp only [List.length_append, List.length_cons]
    omega

theorem Tail.length_le {ps : List (List Char)} {gs : List Nat} (h : Tail ps gs) :
    gs.length ≤ ps.length + 1 := by
  cases h with
  | groups h => rw [h.length_eq]; omega
  | dotted h hn => simp [h.length_eq]

theorem Places.three_le {ps : List (List Char)} {gs : List Nat} (h : Places ps gs) :
    3 ≤ ps.length := by
  cases h with
  | full h hl =>
    have := h.length_le
    omega
  | @gap hs ls high low hh hl hlen =>
    have h1 := List.length_pos_iff.2 (orBlank_ne_nil hs)
    have h2 := List.length_pos_iff.2 (orBlank_ne_nil ls)
    simp only [List.length_append, List.length_cons]
    omega

theorem body_iff {cs : List Char} {gs : List Nat} : Body cs gs ↔ Places (Text.split ':' cs) gs := by
  constructor
  · rintro (⟨h, hl⟩ | ⟨hh, hl, hlen⟩)
    · next ps =>
      have hne : ps ≠ [] := by
        rintro rfl
        have := h.length_le
        simp [hl] at this
      rw [colons, Text.split_intercalate hne fun p => h.not_mem (by decide) (by decide)]
      exact .full h hl
    · next hs ls high low =>
      have hnone : ∀ p ∈ orBlank hs ++ [] :: orBlank ls, ':' ∉ p := by
        have hside {ps : List (List Char)} {gs : List Nat} (h : Tail ps gs) {p : List Char}
            (hp : p ∈ orBlank ps) : ':' ∉ p := by
          unfold orBlank at hp
          split at hp
          · simp [List.mem_singleton.1 hp]
          · exact h.not_mem (by decide) (by decide) hp
        intro p hp
        rcases List.mem_append.1 hp with hp | hp
        · exact hside (.groups hh) hp
        · rcases List.mem_cons.1 hp with rfl | hp
          · simp
          · exact hside hl hp
      rw [← colons_gap, colons, Text.split_intercalate (by simp) hnone]
      exact .gap hh hl hlen
  · intro h
    have htext : colons (Text.split ':' cs) = cs := Text.intercalate_split ':' cs
    generalize Text.split ':' cs = ps at h htext
    subst htext
    cases h with
    | full h hl => exact .full h hl
    | gap hh hl hlen =>
      rw [colons_gap]
      exact .gap hh hl hlen

theorem withoutScope?_eq_some_iff {cs body : List Char} : withoutScope? cs = some body ↔
    '%' ∉ body ∧ (cs = body ∨ ∃ scope, scope ≠ [] ∧ '%' ∉ scope ∧ cs = body ++ '%' :: scope) := by
  constructor
  · intro h
    have htext := Text.intercalate_split '%' cs
    have hparts := Text.not_mem_of_mem_split '%' cs
    unfold withoutScope? at h
    split at h
    · next a ha =>
      rw [ha] at htext hparts
      cases h
      rw [List.intercalate_singleton] at htext
      exact ⟨hparts _ List.mem_cons_self, .inl htext.symm⟩
    · next a scope ha =>
      rw [ha] at htext hparts
      split at h
      · cases h
      · next hne =>
        cases h
        rw [List.isEmpty_iff] at hne
        simp only [List.intercalate_cons_cons, List.intercalate_singleton] at htext
        exact ⟨hparts _ List.mem_cons_self, .inr ⟨scope, hne, hparts _ (by simp), by
          rw [← htext]; simp⟩⟩
    · cases h
  · rintro ⟨hbody, rfl | ⟨scope, hne, hscope, rfl⟩⟩
    · rw [withoutScope?, Text.split_of_not_mem hbody]
    · rw [withoutScope?, Text.split_append_cons hbody, Text.split_of_not_mem hscope]
      simp [hne]

theorem ofText6?_eq_some_iff {cs : List Char} {b : Nat} : ofText6? cs = some b ↔
    ∃ body gs, withoutScope? cs = some body ∧ Body body gs ∧ b = joined gs := by
  simp only [ofText6?, bind, Option.bind_eq_some_iff]
  constructor
  · rintro ⟨body, hbody, h⟩
    split at h
    · cases h
    · obtain ⟨qs, hqs, h⟩ := Option.bind_eq_some_iff.1 h
      split at h
      · cases h
      · obtain ⟨gs, hgs, rfl⟩ := places_iff.1 ⟨qs, hqs, h⟩
        exact ⟨body, gs, hbody, body_iff.2 hgs, rfl⟩
  · rintro ⟨body, gs, hbody, hgs, rfl⟩
    have hplaces := body_iff.1 hgs
    have hthree := hplaces.three_le
    obtain ⟨qs, hqs, hb⟩ := places_iff.2 ⟨gs, hplaces, rfl⟩
    have hnine := length_le_of_bits? hb
    refine ⟨body, hbody, ?_⟩
    rw [if_neg (by omega), hqs, Option.bind_some, if_neg (by omega), hb]

theorem Body.not_mem {cs : List Char} {gs : List Nat} (h : Body cs gs) {c : Char}
    (hc : c.isAlphanum = false) (hdot : c ≠ '.') (hcolon : c ≠ ':') : c ∉ cs := by
  have hcolons {ps : List (List Char)} {gs : List Nat} (h : Tail ps gs) : c ∉ colons ps := by
    have hp := fun p => h.not_mem hc hdot (p := p)
    clear h
    induction ps with
    | nil => simp [colons]
    | cons p rest ih =>
      have hrest := ih fun q hq => hp q (List.mem_cons_of_mem p hq)
      cases rest with
      | nil => simpa [colons] using hp p List.mem_cons_self
      | cons q rest =>
        rw [colons, List.intercalate_cons_cons, ← colons]
        simp [hp p List.mem_cons_self, hcolon, hrest]
  cases h with
  | full h hl => exact hcolons h
  | gap hh hl hlen => simp [hcolons (.groups hh), hcolons hl, hcolon]

theorem Body.colon_mem {cs : List Char} {gs : List Nat} (h : Body cs gs) : ':' ∈ cs := by
  by_contra hc
  have := (body_iff.1 h).three_le
  rw [Text.split_of_not_mem hc] at this
  simp at this

theorem ofText6?_iff_literal6 {cs : List Char} {b : Nat} (hslash : '/' ∉ cs) :
    ofText6? cs = some b ↔ Literal6 cs b := by
  rw [ofText6?_eq_some_iff]
  constructor
  · rintro ⟨body, gs, hbody, hgs, rfl⟩
    obtain ⟨hpercent, rfl | ⟨scope, hne, hscope, rfl⟩⟩ := withoutScope?_eq_some_iff.1 hbody
    · exact .bare hgs
    · simp only [List.mem_append, List.mem_cons, not_or] at hslash
      exact .inScope hgs hne hscope hslash.2.2
  · rintro (⟨hgs⟩ | ⟨hgs, hne, hscope, -⟩)
    · have hpercent := hgs.not_mem (c := '%') (by decide) (by decide) (by decide)
      exact ⟨_, _, withoutScope?_eq_some_iff.2 ⟨hpercent, .inl rfl⟩, hgs, rfl⟩
    · have hpercent := hgs.not_mem (c := '%') (by decide) (by decide) (by decide)
      exact ⟨_, _, withoutScope?_eq_some_iff.2 ⟨hpercent, .inr ⟨_, hne, hscope, rfl⟩⟩, hgs, rfl⟩

theorem Literal6.colon_mem {cs : List Char} {b : Nat} (h : Literal6 cs b) : ':' ∈ cs := by
  cases h with
  | bare h => exact h.colon_mem
  | inScope h hne hp hs => exact List.mem_append_left _ h.colon_mem

theorem Literal6.slash_not_mem {cs : List Char} {b : Nat} (h : Literal6 cs b) : '/' ∉ cs := by
  cases h with
  | bare h => exact h.not_mem (by decide) (by decide) (by decide)
  | inScope h hne hp hs =>
    simp [h.not_mem (c := '/') (by decide) (by decide) (by decide), hs]

theorem Literal6.quad?_eq_none {cs : List Char} {b : Nat} (h : Literal6 cs b) :
    quad? cs = none := by
  cases hq : quad? cs with
  | none => rfl
  | some n =>
    have hcolon := h.colon_mem
    rw [(quad?_eq_some_iff.1 hq).2] at hcolon
    exact absurd hcolon (not_mem_quad (by decide) (by decide) n)

/-- The texts that are read as an IPv6 address are its literals. -/
theorem ofText?_eq_v6_iff {cs : List Char} {b : Nat} :
    ofText? cs = some (.v6 b) ↔ Literal6 cs b := by
  constructor
  · intro h
    unfold ofText? at h
    split at h
    · cases h
    · next hslash =>
      split at h
      · cases h
      · obtain ⟨n, hn, he⟩ := Option.map_eq_some_iff.1 h
        cases he
        exact (ofText6?_iff_literal6 (by simpa using hslash)).1 hn
  · intro h
    have hslash := h.slash_not_mem
    rw [ofText?, if_neg (by simpa using hslash), h.quad?_eq_none]
    simp only [(ofText6?_iff_literal6 hslash).2 h, Option.map_some]

theorem ofText?_eq_v4_iff {cs : List Char} {n : Nat} :
    ofText? cs = some (.v4 n) ↔ n < 0x100000000 ∧ cs = quad n := by
  rw [← quad?_eq_some_iff]
  constructor
  · intro h
    unfold ofText? at h
    split at h
    · cases h
    · split at h
      · next hq =>
        cases h
        exact hq
      · obtain ⟨b, -, he⟩ := Option.map_eq_some_iff.1 h
        cases he
  · intro h
    have hslash : '/' ∉ cs := by
      rw [(quad?_eq_some_iff.1 h).2]
      exact not_mem_quad (by decide) (by decide) n
    rw [ofText?, if_neg (by simpa using hslash), h]

end SctpProbe.Address
