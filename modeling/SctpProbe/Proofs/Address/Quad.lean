import Mathlib.Data.List.Forall2
import SctpProbe.Address.Literal
set_option autoImplicit false

namespace SctpProbe

namespace Text

theorem digitChar_sub {c : Char} (h : c.isDigit = true) : Nat.digitChar (c.toNat - 48) = c := by
  have hc : 48 ≤ c.toNat ∧ c.toNat ≤ 57 := Char.isDigit_iff_toNat.1 h
  apply Char.toNat_inj.1
  rw [Nat.toNat_digitChar_of_lt_ten (by omega)]
  omega

theorem toDigits_append_digits {m : Nat} (hm : 0 < m) {cs : List Char}
    (h : ∀ c ∈ cs, c.isDigit = true) :
    Nat.toDigits 10 m ++ cs = Nat.toDigits 10 (Nat.ofDigitChars 10 cs m) := by
  induction cs generalizing m with
  | nil => simp
  | cons c rest ih =>
    have hc := h c List.mem_cons_self
    have hlt : c.toNat - 48 < 10 := by
      have hd : 48 ≤ c.toNat ∧ c.toNat ≤ 57 := Char.isDigit_iff_toNat.1 hc
      omega
    have hlast : Nat.toDigits 10 m ++ [c] = Nat.toDigits 10 (10 * m + (c.toNat - 48)) := by
      rw [← Nat.toDigits_append_toDigits (by decide) hm hlt, Nat.toDigits_of_lt_base hlt,
        digitChar_sub hc]
    calc Nat.toDigits 10 m ++ c :: rest = Nat.toDigits 10 m ++ [c] ++ rest := by simp
      _ = Nat.toDigits 10 (10 * m + (c.toNat - 48)) ++ rest := by rw [hlast]
      _ = Nat.toDigits 10 (Nat.ofDigitChars 10 (c :: rest) m) := by
        rw [ih (by omega) fun x hx => h x (List.mem_cons_of_mem c hx), Nat.ofDigitChars_cons]
        rfl

/-- Digits without a leading zero are the decimal form of what they denote. -/
theorem toDigits_ofDigitChars {cs : List Char} (hne : cs ≠ [])
    (h : ∀ c ∈ cs, c.isDigit = true) (h0 : cs.head? = some '0' → cs = ['0']) :
    Nat.toDigits 10 (Nat.ofDigitChars 10 cs 0) = cs := by
  cases cs with
  | nil => exact absurd rfl hne
  | cons c rest =>
    by_cases hz : c = '0'
    · rw [h0 (by rw [hz]; rfl)]
      decide
    · have hc := h c List.mem_cons_self
      have hd : 48 ≤ c.toNat ∧ c.toNat ≤ 57 := Char.isDigit_iff_toNat.1 hc
      have hpos : 0 < c.toNat - 48 := by
        have : c.toNat ≠ 48 := fun he => hz (Char.toNat_inj.1 he)
        omega
      have hrest := toDigits_append_digits hpos fun x hx => h x (List.mem_cons_of_mem c hx)
      rw [Nat.toDigits_of_lt_base (by omega), digitChar_sub hc] at hrest
      rw [Nat.ofDigitChars_cons, Nat.mul_zero, Nat.zero_add]
      exact hrest.symm

theorem mem_toDigits {b n : Nat} (hb : 1 < b) {c : Char} (h : c ∈ Nat.toDigits b n) :
    ∃ d, d < b ∧ c = d.digitChar := by
  induction n using Nat.strongRecOn with
  | ind n ih =>
    rw [Nat.toDigits_eq_if hb] at h
    split at h
    · next hn => exact ⟨n, hn, List.mem_singleton.1 h⟩
    · next hn =>
      rcases List.mem_append.1 h with h | h
      · exact ih (n / b) (Nat.div_lt_self (by omega) hb) h
      · exact ⟨n % b, Nat.mod_lt n (by omega), List.mem_singleton.1 h⟩

theorem eq_zero_of_head_toDigits {b n : Nat} (hb : 1 < b)
    (h : (Nat.toDigits b n).head? = some '0') : n = 0 := by
  induction n using Nat.strongRecOn with
  | ind n ih =>
    rw [Nat.toDigits_eq_if hb] at h
    split at h
    · simpa using h
    · next hn =>
      rw [List.head?_append_of_ne_nil _ Nat.toDigits_ne_nil] at h
      have hlt : n / b < n := Nat.div_lt_self (by omega) hb
      have hdiv : n / b = 0 := ih (n / b) hlt h
      rcases Nat.div_eq_zero_iff.1 hdiv with hzero | hsmall
      · omega
      · exact absurd hsmall hn

theorem isDigit_of_not_isAlphanum {c : Char} (h : c.isAlphanum = false) : c.isDigit = false := by
  rw [Char.isAlphanum, Bool.or_eq_false_iff] at h
  exact h.2

theorem not_mem_toDigits {c : Char} (h : c.isDigit = false) (n : Nat) : c ∉ Nat.toDigits 10 n := by
  intro hc
  rw [Nat.isDigit_of_mem_toDigits (by decide) (by decide) hc] at h
  cases h

theorem toDigits_injective {m n : Nat} (h : Nat.toDigits 10 m = Nat.toDigits 10 n) : m = n := by
  rw [← Nat.ofDigitChars_ten_toDigits (n := m), h, Nat.ofDigitChars_ten_toDigits]

theorem split_intercalate {sep : Char} {ps : List (List Char)} (hne : ps ≠ [])
    (h : ∀ p ∈ ps, sep ∉ p) : split sep ([sep].intercalate ps) = ps := by
  induction ps with
  | nil => exact absurd rfl hne
  | cons p rest ih =>
    have hp := h p List.mem_cons_self
    cases rest with
    | nil => rw [List.intercalate_singleton, split_of_not_mem hp]
    | cons q rest =>
      have hrest := ih (by simp) fun x hx => h x (List.mem_cons_of_mem p hx)
      rw [List.intercalate_cons_cons, List.append_assoc, List.singleton_append,
        split_append_cons hp, hrest]

theorem not_mem_of_mem_split (sep : Char) (cs : List Char) : ∀ p ∈ split sep cs, sep ∉ p := by
  induction cs with
  | nil => simp [split]
  | cons c rest ih =>
    intro p hp
    simp only [split] at hp
    split at hp
    · rcases List.mem_cons.1 hp with rfl | hp
      · simp
      · exact ih p hp
    · next hc =>
      cases hs : split sep rest with
      | nil => exact absurd hs (split_ne_nil sep rest)
      | cons q qs =>
        rw [hs] at hp ih
        rcases List.mem_cons.1 hp with rfl | hp
        · simp [Ne.symm hc, ih q List.mem_cons_self]
        · exact ih p (List.mem_cons_of_mem q hp)

end Text

theorem mapM_eq_some_iff {α β : Type} {f : α → Option β} {as : List α} {bs : List β} :
    as.mapM f = some bs ↔ List.Forall₂ (fun a b => f a = some b) as bs := by
  induction as generalizing bs with
  | nil => simp [eq_comm]
  | cons a rest ih =>
    rw [List.forall₂_cons_left_iff]
    simp only [List.mapM_cons, bind, Option.bind_eq_some_iff, pure, Option.some.injEq, ih]
    constructor
    · rintro ⟨b, hb, cs, hcs, rfl⟩
      exact ⟨b, cs, hb, hcs, rfl⟩
    · rintro ⟨b, cs, hb, hcs, rfl⟩
      exact ⟨b, hb, cs, hcs, rfl⟩

namespace Address

theorem octet?_toDigits {n : Nat} (h : n < 256) : octet? (Nat.toDigits 10 n) = some n := by
  have hlen : ¬ 3 < (Nat.toDigits 10 n).length := by
    have := (Nat.length_toDigits_le_iff (b := 10) (n := n) (k := 3) (by decide) (by decide)).2
      (by omega)
    omega
  have hdigits : ((Nat.toDigits 10 n).all fun c => 48 ≤ c.toNat && c.toNat ≤ 57) = true := by
    refine List.all_eq_true.2 fun c hc => ?_
    have := Char.isDigit_iff_toNat.1 (Nat.isDigit_of_mem_toDigits (by decide) (by decide) hc)
    simpa using this
  have hzero : ¬ (Nat.toDigits 10 n ≠ ['0'] ∧ (Nat.toDigits 10 n).head? = some '0') := by
    rintro ⟨hne, h0⟩
    rw [Text.eq_zero_of_head_toDigits (by decide) h0] at hne
    exact hne rfl
  have hvalue : (Nat.toDigits 10 n).foldl (fun n c => 10 * n + (c.toNat - 48)) 0 = n := by
    have := Nat.ofDigitChars_ten_toDigits (n := n)
    rw [Nat.ofDigitChars_eq_foldl] at this
    exact this
  unfold octet?
  rw [if_neg (by simp [hlen, hdigits]), if_neg hzero]
  simp only [hvalue]
  rw [if_pos (by omega)]

/-- A number of a dotted quad has its decimal form as its only spelling. -/
theorem octet?_eq_some_iff {cs : List Char} {n : Nat} :
    octet? cs = some n ↔ n < 256 ∧ cs = Nat.toDigits 10 n := by
  constructor
  · intro h
    unfold octet? at h
    split at h
    · cases h
    · next hshape =>
      simp only [not_or, List.isEmpty_iff, not_not] at hshape
      obtain ⟨hne, -, hall⟩ := hshape
      have hdigits : ∀ c ∈ cs, c.isDigit = true := fun c hc =>
        Char.isDigit_iff_toNat.2 (by simpa using List.all_eq_true.1 hall c hc)
      split at h
      · cases h
      · next hzero =>
        have hcanonical := Text.toDigits_ofDigitChars hne hdigits fun h0 => by
          by_contra hz
          exact hzero ⟨hz, h0⟩
        rw [Nat.ofDigitChars_eq_foldl] at hcanonical
        simp only at h
        split at h
        · next hb =>
          simp only [Option.some.injEq] at h
          exact ⟨by omega, h ▸ hcanonical.symm⟩
        · cases h
  · rintro ⟨hn, rfl⟩
    exact octet?_toDigits hn

theorem split_quad (n : Nat) : Text.split '.' (quad n) =
    [Nat.toDigits 10 (n / 0x1000000 % 256), Nat.toDigits 10 (n / 0x10000 % 256),
      Nat.toDigits 10 (n / 0x100 % 256), Nat.toDigits 10 (n % 256)] := by
  have hdot := Text.not_mem_toDigits (c := '.') rfl
  unfold quad
  simp only [List.append_assoc, List.cons_append]
  rw [Text.split_append_cons (hdot _), Text.split_append_cons (hdot _),
    Text.split_append_cons (hdot _), Text.split_of_not_mem (hdot _)]

theorem quad?_quad {n : Nat} (h : n < 0x100000000) : quad? (quad n) = some n := by
  have hparts : (Text.split '.' (quad n)).mapM octet? =
      some [n / 0x1000000 % 256, n / 0x10000 % 256, n / 0x100 % 256, n % 256] := by
    rw [split_quad, mapM_eq_some_iff]
    have hoctet (k : Nat) : octet? (Nat.toDigits 10 (k % 256)) = some (k % 256) :=
      octet?_toDigits (by omega)
    exact .cons (hoctet _) (.cons (hoctet _) (.cons (hoctet _) (.cons (hoctet _) .nil)))
  unfold quad?
  rw [hparts]
  simp only [Option.some.injEq]
  omega

theorem eq_quad_of_quad? {cs : List Char} {n : Nat} (h : quad? cs = some n) :
    n < 0x100000000 ∧ cs = quad n := by
  unfold quad? at h
  split at h
  · next a b c d hparts =>
    have htext := Text.intercalate_split '.' cs
    rw [mapM_eq_some_iff] at hparts
    generalize Text.split '.' cs = parts at hparts htext
    obtain _ | ⟨ha, _ | ⟨hb, _ | ⟨hc, _ | ⟨hd, _ | _⟩⟩⟩⟩ := hparts
    obtain ⟨ha, rfl⟩ := octet?_eq_some_iff.1 ha
    obtain ⟨hb, rfl⟩ := octet?_eq_some_iff.1 hb
    obtain ⟨hc, rfl⟩ := octet?_eq_some_iff.1 hc
    obtain ⟨hd, rfl⟩ := octet?_eq_some_iff.1 hd
    simp only [Option.some.injEq] at h
    refine ⟨by omega, ?_⟩
    have h1 : n / 0x1000000 % 256 = a := by omega
    have h2 : n / 0x10000 % 256 = b := by omega
    have h3 : n / 0x100 % 256 = c := by omega
    have h4 : n % 256 = d := by omega
    rw [quad, h1, h2, h3, h4, ← htext]
    simp [List.intercalate_cons_cons, List.intercalate_singleton]
  · cases h

/-- A dotted quad has one spelling only. -/
theorem quad?_eq_some_iff {cs : List Char} {n : Nat} :
    quad? cs = some n ↔ n < 0x100000000 ∧ cs = quad n := by
  constructor
  · exact eq_quad_of_quad?
  · rintro ⟨hn, rfl⟩
    exact quad?_quad hn

theorem quad_injective {m n : Nat} (hm : m < 0x100000000) (hn : n < 0x100000000)
    (h : quad m = quad n) : m = n := by
  have hq := quad?_quad hm
  rw [h, quad?_quad hn, Option.some.injEq] at hq
  exact hq.symm

theorem not_mem_quad {c : Char} (hdigit : c.isDigit = false) (hdot : c ≠ '.') (n : Nat) :
    c ∉ quad n := by
  have h := Text.not_mem_toDigits hdigit
  simp [quad, h, hdot]

end Address

end SctpProbe
