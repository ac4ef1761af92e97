import SctpProbe.Proofs.Address.Spelling
set_option autoImplicit false

/-!
Gaps in an IPv6 address. Two colons in a row leave an empty place where the missing groups belong,
and one more at the edge of the text if nothing stands on that side. What places between colons
stand for follows from where they are empty (`bits?_eq_some_iff`).
-/

namespace SctpProbe.Address

theorem intercalate_append {α : Type} (sep : List α) {xs ys : List (List α)} (hx : xs ≠ [])
    (hy : ys ≠ []) :
    sep.intercalate (xs ++ ys) = sep.intercalate xs ++ sep ++ sep.intercalate ys := by
  induction xs with
  | nil => exact absurd rfl hx
  | cons x rest ih =>
    cases rest with
    | nil =>
      rw [List.singleton_append, List.intercalate_cons_of_ne_nil hy, List.intercalate_singleton]
    | cons y rest =>
      rw [List.cons_append, List.intercalate_cons_of_ne_nil (by simp), ih (by simp),
        List.intercalate_cons_cons]
      simp only [List.append_assoc]

def orBlank (ps : List (List Char)) : List (List Char) := if ps = [] then [[]] else ps

theorem orBlank_ne_nil (ps : List (List Char)) : orBlank ps ≠ [] := by
  unfold orBlank
  split <;> simp_all

theorem orBlank_eq_self {ps : List (List Char)} (h : ps ≠ []) : orBlank ps = ps := if_neg h

theorem reverse_orBlank (ps : List (List Char)) : (orBlank ps).reverse = orBlank ps.reverse := by
  cases ps with
  | nil => rfl
  | cons p rest => rw [orBlank_eq_self (by simp), orBlank_eq_self (by simp)]

theorem colons_orBlank (ps : List (List Char)) : colons (orBlank ps) = colons ps := by
  cases ps with
  | nil => rfl
  | cons p rest => rw [orBlank_eq_self (by simp)]

theorem colons_gap (hs ls : List (List Char)) :
    colons (orBlank hs ++ [] :: orBlank ls) = colons hs ++ ':' :: ':' :: colons ls := by
  have hrest : colons ([] :: orBlank ls) = ':' :: colons ls := by
    rw [colons, List.intercalate_cons_of_ne_nil (orBlank_ne_nil ls), ← colons, colons_orBlank]
    rfl
  rw [colons, intercalate_append _ (orBlank_ne_nil hs) (by simp), ← colons, ← colons, hrest,
    colons_orBlank]
  simp

theorem front?_orBlank {ps : List (List Char)} (h : ∀ p ∈ ps, p ≠ []) :
    front? (orBlank ps) = some ps := by
  match ps, h with
  | [], _ => rfl
  | [] :: rest, h => exact absurd rfl (h [] List.mem_cons_self)
  | (c :: p) :: rest, _ => rfl

theorem eq_orBlank_of_front? {ps qs : List (List Char)} (hne : ps ≠ []) (h : front? ps = some qs)
    (hq : ∀ q ∈ qs, q ≠ []) : ps = orBlank qs := by
  unfold front? at h
  split at h
  · cases h
    rfl
  · cases h
  · cases h
    exact (orBlank_eq_self hne).symm

theorem back?_eq (ps : List (List Char)) : back? ps = (front? ps.reverse).map List.reverse := by
  unfold back? front?
  split <;> simp

theorem back?_orBlank {ps : List (List Char)} (h : ∀ p ∈ ps, p ≠ []) :
    back? (orBlank ps) = some ps := by
  rw [back?_eq, reverse_orBlank, front?_orBlank (by simpa using h)]
  simp

theorem eq_orBlank_of_back? {ps qs : List (List Char)} (hne : ps ≠ []) (h : back? ps = some qs)
    (hq : ∀ q ∈ qs, q ≠ []) : ps = orBlank qs := by
  rw [back?_eq] at h
  obtain ⟨rs, hrs, rfl⟩ := Option.map_eq_some_iff.1 h
  have := eq_orBlank_of_front? (by simpa using hne) hrs (by simpa using hq)
  rw [← List.reverse_reverse ps, this, reverse_orBlank]

theorem gaps_of_gap {a : List Char} {as bs : List (List Char)} {b : List Char}
    (ha : ∀ p ∈ as, p ≠ []) (hb : ∀ p ∈ bs, p ≠ []) :
    gaps (a :: as ++ [] :: (bs ++ [b])) = [as.length + 1] := by
  have hlen : (a :: as ++ [] :: (bs ++ [b])).length - 2 = as.length + (1 + bs.length) := by
    simp only [List.length_append, List.length_cons, List.length_nil]
    omega
  unfold gaps
  rw [hlen, ← List.range'_append_1, ← List.range'_append_1, List.filter_append, List.filter_append]
  have hfront : (List.range' 1 as.length).filter
      (fun i => ((a :: as ++ [] :: (bs ++ [b]))[i]?.getD []).isEmpty) = [] := by
    rw [List.filter_eq_nil_iff]
    intro i hi
    rw [List.mem_range'_1] at hi
    obtain ⟨j, rfl⟩ : ∃ j, i = j + 1 := ⟨i - 1, by omega⟩
    have hj : j < as.length := by omega
    have hp := ha as[j] (List.getElem_mem hj)
    simp [List.getElem?_append_left hj, List.getElem?_eq_getElem hj, hp]
  have hback : (List.range' (1 + as.length + 1) bs.length).filter
      (fun i => ((a :: as ++ [] :: (bs ++ [b]))[i]?.getD []).isEmpty) = [] := by
    rw [List.filter_eq_nil_iff]
    intro i hi
    rw [List.mem_range'_1] at hi
    obtain ⟨j, rfl⟩ : ∃ j, i = as.length + 1 + (j + 1) := ⟨i - (as.length + 2), by omega⟩
    have hj : j < bs.length := by omega
    have hp := hb bs[j] (List.getElem_mem hj)
    have hget : (a :: as ++ [] :: (bs ++ [b]))[as.length + 1 + (j + 1)]? = some bs[j] := by
      rw [List.getElem?_append_right (by simp)]
      simp [List.getElem?_append_left hj]
    simp only [hget]
    simpa using hp
  rw [hfront, hback]
  simp [Nat.add_comm]

theorem gaps_orBlank {hs ls : List (List Char)} (hh : ∀ p ∈ hs, p ≠ []) (hl : ∀ p ∈ ls, p ≠ []) :
    gaps (orBlank hs ++ [] :: orBlank ls) = [(orBlank hs).length] := by
  have hfront : ∃ a as, orBlank hs = a :: as ∧ ∀ p ∈ as, p ≠ [] := by
    cases hs with
    | nil => exact ⟨[], [], rfl, by simp⟩
    | cons p rest =>
      exact ⟨p, rest, orBlank_eq_self (by simp), fun q hq => hh q (List.mem_cons_of_mem p hq)⟩
  have hback : ∃ bs b, orBlank ls = bs ++ [b] ∧ ∀ p ∈ bs, p ≠ [] := by
    rcases List.eq_nil_or_concat ls with rfl | ⟨bs, b, rfl⟩
    · exact ⟨[], [], rfl, by simp⟩
    · rw [orBlank_eq_self (by simp)]
      exact ⟨bs, b, by simp, fun p hp => hl p (by simp [hp])⟩
  obtain ⟨a, as, ha, has⟩ := hfront
  obtain ⟨bs, b, hb, hbs⟩ := hback
  rw [ha, hb, gaps_of_gap has hbs]
  rfl

theorem eq_of_gaps {ps : List (List Char)} {i : Nat} (h : gaps ps = [i]) :
    ps = ps.take i ++ [] :: ps.drop (i + 1) ∧ ps.take i ≠ [] ∧ ps.drop (i + 1) ≠ [] := by
  have hi : i ∈ gaps ps := by simp [h]
  simp only [gaps, List.mem_filter, List.mem_range'_1, List.isEmpty_iff] at hi
  obtain ⟨hrange, hblank⟩ := hi
  have hlt : i < ps.length := by omega
  rw [List.getElem?_eq_getElem hlt, Option.getD_some] at hblank
  refine ⟨?_, ?_, ?_⟩
  · rw [← hblank, ← List.drop_eq_getElem_cons hlt, List.take_append_drop]
  · rw [Ne, List.take_eq_nil_iff]
    rintro (rfl | rfl)
    · omega
    · simp at hlt
  · rw [Ne, List.drop_eq_nil_iff]
    omega

theorem gaps_of_row {ps : List (List Char)} {gs : List Nat} (h : Row ps gs) : gaps ps = [] := by
  unfold gaps
  rw [List.filter_eq_nil_iff]
  intro i hi
  rw [List.mem_range'_1] at hi
  have hlt : i < ps.length := by omega
  have hp := h.ne_nil_of_mem (List.getElem_mem hlt)
  simp [List.getElem?_eq_getElem hlt, hp]

theorem foldl_groups (n : Nat) (gs : List Nat) :
    gs.foldl (fun n g => 65536 * n + g) n = n * Nat.pow 65536 gs.length + joined gs := by
  induction gs generalizing n with
  | nil => simp [joined]
  | cons g rest ih =>
    have hfirst : joined (g :: rest) = g * Nat.pow 65536 rest.length + joined rest := by
      have := ih g
      simpa [joined] using this
    have hpow : Nat.pow 65536 (g :: rest).length = 65536 * Nat.pow 65536 rest.length := by
      rw [Nat.mul_comm]
      rfl
    rw [List.foldl_cons, ih, hfirst, hpow, Nat.add_mul, ← Nat.mul_assoc, Nat.mul_comm n 65536,
      Nat.add_assoc]

theorem joined_append (xs ys : List Nat) :
    joined (xs ++ ys) = joined xs * Nat.pow 65536 ys.length + joined ys := by
  rw [joined, List.foldl_append, foldl_groups]
  rfl

theorem joined_filled {high low : List Nat} (h : high.length + low.length ≤ 7) :
    joined (filled high low) = joined high * Nat.pow 65536 (8 - high.length) + joined low := by
  have hzero (k : Nat) : joined (List.replicate k 0) = 0 := by
    induction k with
    | zero => rfl
    | succ k ih =>
      rw [List.replicate_succ', joined_append, ih]
      simp [joined]
  have hlen : (List.replicate (8 - (high.length + low.length)) 0 ++ low).length =
      8 - high.length := by
    rw [List.length_append, List.length_replicate]
    omega
  rw [filled, List.append_assoc, joined_append, hlen, joined_append, hzero]
  omega

/-- What the places between colons stand for. -/
theorem bits?_eq_some_iff {ps : List (List Char)} {b : Nat} : bits? ps = some b ↔
    (∃ gs, Row ps gs ∧ gs.length = 8 ∧ b = joined gs) ∨
    ∃ hs ls high low, ps = orBlank hs ++ [] :: orBlank ls ∧ Row hs high ∧ Row ls low ∧
      high.length + low.length ≤ 7 ∧ b = joined (filled high low) := by
  constructor
  · intro h
    unfold bits? at h
    split at h
    · split at h
      · next hlen =>
        obtain ⟨gs, hgs, rfl⟩ := Option.map_eq_some_iff.1 h
        have hrow := row_iff.1 hgs
        exact .inl ⟨gs, hrow, by rw [← hrow.length_eq, hlen], rfl⟩
      · cases h
    · next i hi =>
      obtain ⟨hps, hfront, hback⟩ := eq_of_gaps hi
      simp only [bind, Option.bind_eq_some_iff] at h
      obtain ⟨hs, hf, ls, hb, h⟩ := h
      split at h
      · next hlen =>
        simp only [Option.bind_eq_some_iff, Option.some.injEq] at h
        obtain ⟨high, hhigh, low, hlow, rfl⟩ := h
        have hh := row_iff.1 hhigh
        have hl := row_iff.1 hlow
        rw [eq_orBlank_of_front? hfront hf fun _ => hh.ne_nil_of_mem,
          eq_orBlank_of_back? hback hb fun _ => hl.ne_nil_of_mem] at hps
        rw [hh.length_eq, hl.length_eq] at hlen
        exact .inr ⟨hs, ls, high, low, hps, hh, hl, hlen, (joined_filled hlen).symm⟩
      · cases h
    · cases h
  · rintro (⟨gs, hrow, hlen, rfl⟩ | ⟨hs, ls, high, low, rfl, hh, hl, hlen, rfl⟩)
    · rw [bits?, gaps_of_row hrow]
      simp only
      rw [if_pos (by rw [hrow.length_eq, hlen]), row_iff.2 hrow]
      rfl
    · have htake : (orBlank hs ++ [] :: orBlank ls).take (orBlank hs).length = orBlank hs :=
        List.take_left
      have hdrop :
          (orBlank hs ++ [] :: orBlank ls).drop ((orBlank hs).length + 1) = orBlank ls := by
        rw [List.drop_length_add_append]
        rfl
      rw [bits?, gaps_orBlank (fun _ => hh.ne_nil_of_mem) fun _ => hl.ne_nil_of_mem]
      simp only [htake, hdrop, front?_orBlank fun _ => hh.ne_nil_of_mem,
        back?_orBlank fun _ => hl.ne_nil_of_mem, bind, Option.bind_some, hh.length_eq, hl.length_eq,
        if_pos hlen, row_iff.2 hh, row_iff.2 hl, joined_filled hlen]

end SctpProbe.Address
