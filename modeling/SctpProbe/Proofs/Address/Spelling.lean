import Mathlib.Tactic.IntervalCases
import SctpProbe.Proofs.Address.Quad
set_option autoImplicit false

/-!
The spellings of an IPv6 address. A body is eight groups of hexadecimal digits in either case, with
leading zeros or without; two colons stand for the groups that are missing, and the last two groups
may be a dotted quad. A scope may follow. That these are what is read as an IPv6 address is shown
from the inside out: here for digits, groups and the last place.
-/

namespace SctpProbe.Address

def HexDigit (c : Char) (d : Nat) : Prop :=
  d < 16 ∧ (c = d.digitChar ∨ c = d.digitChar.toUpper)

def hexValue (ds : List Nat) : Nat := ds.foldl (fun n d => 16 * n + d) 0

inductive Group (cs : List Char) (n : Nat) : Prop
  | of {ds : List Nat} (nonempty : cs ≠ []) (short : cs.length ≤ 4)
    (digits : List.Forall₂ HexDigit cs ds) (value : hexValue ds = n)

abbrev Row (ps : List (List Char)) (gs : List Nat) : Prop := List.Forall₂ Group ps gs

/-- Places between colons, the last one of which may hold a dotted quad instead of two groups. -/
inductive Tail : List (List Char) → List Nat → Prop
  | groups {ps : List (List Char)} {gs : List Nat} (h : Row ps gs) : Tail ps gs
  | dotted {ps : List (List Char)} {gs : List Nat} {n : Nat} (h : Row ps gs)
    (hn : n < 0x100000000) : Tail (ps ++ [quad n]) (gs ++ [n / 65536, n % 65536])

def filled (high low : List Nat) : List Nat :=
  high ++ List.replicate (8 - (high.length + low.length)) 0 ++ low

def colons (ps : List (List Char)) : List Char := [':'].intercalate ps

inductive Body : List Char → List Nat → Prop
  | full {ps : List (List Char)} {gs : List Nat} (h : Tail ps gs) (hl : gs.length = 8) :
    Body (colons ps) gs
  | gap {hs ls : List (List Char)} {high low : List Nat} (hh : Row hs high) (hl : Tail ls low)
    (hlen : high.length + low.length ≤ 7) :
    Body (colons hs ++ ':' :: ':' :: colons ls) (filled high low)

/-- A literal of the IPv6 address with these bits. -/
inductive Literal6 : List Char → Nat → Prop
  | bare {cs : List Char} {gs : List Nat} (h : Body cs gs) : Literal6 cs (joined gs)
  | inScope {cs scope : List Char} {gs : List Nat} (h : Body cs gs) (hne : scope ≠ [])
    (hpercent : '%' ∉ scope) (hslash : '/' ∉ scope) :
    Literal6 (cs ++ '%' :: scope) (joined gs)

theorem hexDigit?_eq_some_iff {c : Char} {d : Nat} : hexDigit? c = some d ↔ HexDigit c d := by
  have hchar : c = Char.ofNat c.toNat := (Char.ofNat_toNat c).symm
  constructor
  · intro h
    simp only [hexDigit?] at h
    split at h
    · next hc =>
      simp only [Option.some.injEq] at h
      subst h
      exact ⟨by omega, .inl (Text.digitChar_sub (Char.isDigit_iff_toNat.2 hc)).symm⟩
    · split at h
      · next hc =>
        simp only [Option.some.injEq] at h
        obtain ⟨hlo, hhi⟩ := hc
        generalize c.toNat = n at *
        subst hchar h
        interval_cases n <;> exact ⟨by decide, .inl (by decide)⟩
      · split at h
        · next hc =>
          simp only [Option.some.injEq] at h
          obtain ⟨hlo, hhi⟩ := hc
          generalize c.toNat = n at *
          subst hchar h
          interval_cases n <;> exact ⟨by decide, .inr (by decide)⟩
        · cases h
  · rintro ⟨hd, rfl | rfl⟩ <;> clear hchar <;> interval_cases d <;> decide

theorem HexDigit.isAlphanum {c : Char} {d : Nat} (h : HexDigit c d) : c.isAlphanum = true := by
  obtain ⟨hd, rfl | rfl⟩ := h <;> interval_cases d <;> decide

theorem group?_eq_some_iff {cs : List Char} {n : Nat} : group? cs = some n ↔ Group cs n := by
  have hdigits {ds : List Nat} :
      cs.mapM hexDigit? = some ds ↔ List.Forall₂ HexDigit cs ds := by
    simp only [mapM_eq_some_iff, hexDigit?_eq_some_iff]
  constructor
  · intro h
    unfold group? at h
    split at h
    · cases h
    · next hshape =>
      simp only [not_or, List.isEmpty_iff, Nat.not_lt] at hshape
      obtain ⟨ds, hds, hn⟩ := Option.map_eq_some_iff.1 h
      exact .of hshape.1 hshape.2 (hdigits.1 hds) hn
  · rintro ⟨hne, hshort, hds, rfl⟩
    have hshape : ¬ (cs.isEmpty = true ∨ 4 < cs.length) := by
      simp [hne, hshort]
    rw [group?, if_neg hshape, hdigits.2 hds]
    rfl

theorem row_iff {ps : List (List Char)} {gs : List Nat} : ps.mapM group? = some gs ↔ Row ps gs := by
  simp only [mapM_eq_some_iff, group?_eq_some_iff, Row]

theorem Group.unique {cs : List Char} {m n : Nat} (hm : Group cs m) (hn : Group cs n) : m = n := by
  have := group?_eq_some_iff.2 hm
  rwa [group?_eq_some_iff.2 hn, Option.some.injEq, eq_comm] at this

theorem Group.ne_nil {cs : List Char} {n : Nat} : Group cs n → cs ≠ []
  | .of nonempty _ _ _ => nonempty

theorem Group.not_mem {cs : List Char} {n : Nat} (h : Group cs n) {c : Char}
    (hc : c.isAlphanum = false) : c ∉ cs := by
  obtain ⟨-, -, hds, -⟩ := h
  intro hm
  obtain ⟨d, hd⟩ : ∃ d, HexDigit c d := by
    clear n
    induction hds with
    | nil => simp at hm
    | cons hd _ ih =>
      rcases List.mem_cons.1 hm with rfl | hm
      · exact ⟨_, hd⟩
      · exact ih hm
  rw [hd.isAlphanum] at hc
  cases hc

theorem exists_hexDigits (n : Nat) :
    ∃ ds, List.Forall₂ HexDigit (Nat.toDigits 16 n) ds ∧ hexValue ds = n := by
  induction n using Nat.strongRecOn with
  | ind n ih =>
    have hdigit (d : Nat) (hd : d < 16) : HexDigit d.digitChar d := ⟨hd, .inl rfl⟩
    rw [Nat.toDigits_eq_if (by decide)]
    split
    · next hn => exact ⟨[n], .cons (hdigit n hn) .nil, by simp [hexValue]⟩
    · next hn =>
      obtain ⟨ds, hds, hv⟩ := ih (n / 16) (by omega)
      refine ⟨ds ++ [n % 16], List.rel_append hds (.cons (hdigit _ (by omega)) .nil), ?_⟩
      have hstep : hexValue (ds ++ [n % 16]) = 16 * hexValue ds + n % 16 := by simp [hexValue]
      rw [hstep, hv]
      omega

theorem group_toDigits {n : Nat} (h : n < 65536) : Group (Nat.toDigits 16 n) n := by
  obtain ⟨ds, hds, hv⟩ := exists_hexDigits n
  have hshort := (Nat.length_toDigits_le_iff (b := 16) (n := n) (k := 4) (by decide) (by decide)).2
    (by omega)
  exact .of Nat.toDigits_ne_nil hshort hds hv

section

variable {ps : List (List Char)} {gs : List Nat}

theorem Row.split {qs : List (List Char)} (h : Row (ps ++ qs) gs) :
    ∃ hs ls, gs = hs ++ ls ∧ Row ps hs ∧ Row qs ls := by
  induction ps generalizing gs with
  | nil => exact ⟨[], gs, rfl, .nil, h⟩
  | cons p rest ih =>
    obtain ⟨g, gs, hg, hgs, rfl⟩ := List.forall₂_cons_left_iff.1 h
    obtain ⟨hs, ls, rfl, hh, hl⟩ := ih hgs
    exact ⟨g :: hs, ls, rfl, .cons hg hh, hl⟩

theorem Row.group_of_mem (h : Row ps gs) {p : List Char} (hp : p ∈ ps) : ∃ n, Group p n := by
  induction h with
  | nil => simp at hp
  | cons hg _ ih =>
    rcases List.mem_cons.1 hp with rfl | hp
    · exact ⟨_, hg⟩
    · exact ih hp

theorem Row.ne_nil_of_mem (h : Row ps gs) {p : List Char} (hp : p ∈ ps) : p ≠ [] := by
  obtain ⟨n, hn⟩ := h.group_of_mem hp
  exact hn.ne_nil

theorem Tail.not_mem (h : Tail ps gs) {c : Char} (hc : c.isAlphanum = false) (hdot : c ≠ '.')
    {p : List Char} (hp : p ∈ ps) : c ∉ p := by
  have hgroup {ps : List (List Char)} {gs : List Nat} (h : Row ps gs) (hp : p ∈ ps) : c ∉ p := by
    obtain ⟨n, hn⟩ := h.group_of_mem hp
    exact hn.not_mem hc
  cases h with
  | groups h => exact hgroup h hp
  | dotted h hn =>
    rcases List.mem_append.1 hp with hp | hp
    · exact hgroup h hp
    · rw [List.mem_singleton.1 hp]
      exact not_mem_quad (Text.isDigit_of_not_isAlphanum hc) hdot _

/-- The two ways to expand the last place. -/
theorem expand?_eq_some_iff {qs : List (List Char)} : expand? ps = some qs ↔
    ((∀ p ∈ ps.getLast?, '.' ∉ p) ∧ qs = ps) ∨
    ∃ init n, n < 0x100000000 ∧ ps = init ++ [quad n] ∧
      qs = init ++ [Nat.toDigits 16 (n / 65536), Nat.toDigits 16 (n % 65536)] := by
  induction ps generalizing qs with
  | nil =>
    simp only [expand?, Option.some.injEq]
    constructor
    · rintro rfl
      exact .inl ⟨by simp, rfl⟩
    · rintro (⟨-, rfl⟩ | ⟨init, n, -, hps, -⟩)
      · rfl
      · simp at hps
  | cons p rest ih =>
    cases rest with
    | nil =>
      have hdot (n : Nat) : '.' ∈ quad n := by simp [quad]
      simp only [expand?, List.contains_iff_mem]
      split
      · next hp =>
        simp only [Option.map_eq_some_iff, quad?_eq_some_iff]
        constructor
        · rintro ⟨n, ⟨hn, rfl⟩, rfl⟩
          exact .inr ⟨[], n, hn, rfl, rfl⟩
        · rintro (⟨h, -⟩ | ⟨init, n, hn, hps, rfl⟩)
          · exact absurd hp (h p rfl)
          · cases init with
            | nil =>
              simp only [List.nil_append, List.cons.injEq, and_true] at hps
              exact ⟨n, ⟨hn, hps⟩, rfl⟩
            | cons q init => simp at hps
      · next hp =>
        simp only [Option.some.injEq]
        constructor
        · rintro rfl
          exact .inl ⟨by simpa using hp, rfl⟩
        · rintro (⟨-, rfl⟩ | ⟨init, n, hn, hps, rfl⟩)
          · rfl
          · cases init with
            | nil =>
              simp only [List.nil_append, List.cons.injEq, and_true] at hps
              exact absurd (hps ▸ hdot n) hp
            | cons q init => simp at hps
    | cons q rest =>
      simp only [expand?, Option.map_eq_some_iff, ih, List.getLast?_cons_cons]
      constructor
      · rintro ⟨qs, ⟨h, rfl⟩ | ⟨init, n, hn, hps, rfl⟩, rfl⟩
        · exact .inl ⟨h, rfl⟩
        · exact .inr ⟨p :: init, n, hn, by rw [hps]; rfl, rfl⟩
      · rintro (⟨h, rfl⟩ | ⟨init, n, hn, hps, rfl⟩)
        · exact ⟨_, .inl ⟨h, rfl⟩, rfl⟩
        · cases init with
          | nil => simp at hps
          | cons p' init =>
            obtain ⟨rfl, hrest⟩ := List.cons.inj hps
            exact ⟨_, .inr ⟨init, n, hn, hrest, rfl⟩, rfl⟩

theorem tail_iff : (∃ qs, expand? ps = some qs ∧ Row qs gs) ↔ Tail ps gs := by
  have hlow (n : Nat) : Group (Nat.toDigits 16 (n % 65536)) (n % 65536) :=
    group_toDigits (by omega)
  constructor
  · rintro ⟨qs, hqs, hrow⟩
    rcases expand?_eq_some_iff.1 hqs with ⟨-, rfl⟩ | ⟨init, n, hn, rfl, rfl⟩
    · exact .groups hrow
    · obtain ⟨hs, two, rfl, hinit, htwo⟩ := hrow.split
      obtain _ | ⟨h1, _ | ⟨h2, _ | _⟩⟩ := htwo
      cases h1.unique (group_toDigits (by omega))
      cases h2.unique (hlow n)
      exact .dotted hinit hn
  · rintro (h | ⟨h, hn⟩)
    · refine ⟨ps, expand?_eq_some_iff.2 (.inl ⟨fun p hp => ?_, rfl⟩), h⟩
      obtain ⟨n, hg⟩ := h.group_of_mem (List.mem_of_getLast? hp)
      exact hg.not_mem (by decide)
    · refine ⟨_, expand?_eq_some_iff.2 (.inr ⟨_, _, hn, rfl, rfl⟩), ?_⟩
      exact List.rel_append h (.cons (group_toDigits (by omega)) (.cons (hlow _) .nil))

end

end SctpProbe.Address
