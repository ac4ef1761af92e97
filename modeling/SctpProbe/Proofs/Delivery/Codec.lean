import SctpProbe.Proofs.Answers.Account
set_option autoImplicit false

namespace SctpProbe

namespace Value

/-- A whole number from zero up to a bound, which is out. A truth value counts as 0 or 1. -/
def Fits (bound : Nat) (v : Value) : Prop := ∃ n : Nat, v.int? = some (n : Int) ∧ n < bound

theorem fits_iff {bound : Nat} {v : Value} {n : Int} (h : v.int? = some n) :
    v.Fits bound ↔ 0 ≤ n ∧ n < bound := by
  constructor
  · rintro ⟨m, hm, hb⟩
    rw [h, Option.some.injEq] at hm
    omega
  · rintro ⟨h0, hb⟩
    exact ⟨n.toNat, by rw [h, Int.toNat_of_nonneg h0], by omega⟩

instance (bound : Nat) (v : Value) : Decidable (v.Fits bound) :=
  match h : v.int? with
  | none => .isFalse fun ⟨_, hn, _⟩ => by rw [h] at hn; cases hn
  | some _ => decidable_of_iff _ (fits_iff h).symm

end Value

namespace DeliveryInfo

/-- A check takes the whole numbers below a bound as they are and answers every other value with a
fault of a known family. -/
structure Guards (check : Value → Except Fault Nat) (bound : Nat)
    (family : Value → Fault.Family) : Prop where
  accepts : ∀ {v : Value} {n : Nat}, v.int? = some (n : Int) → n < bound → check v = .ok n
  refuses : ∀ {v : Value}, ¬ v.Fits bound → ∃ f, check v = .error f ∧ f.family = family v

def identifierFamily (v : Value) : Fault.Family :=
  if v.int?.isSome then .overflow else .wrongType

theorem identifierOf_guards : Guards identifierOf 0x100000000 identifierFamily where
  accepts {v n} h hn := by
    simp only [identifierOf, h]
    rw [if_neg (by omega), if_neg (by omega), if_neg (by omega), Int.toNat_natCast]
  refuses {v} h := by
    unfold identifierOf identifierFamily
    cases hv : v.int? with
    | none => exact ⟨_, rfl, rfl⟩
    | some n =>
      rw [Value.fits_iff hv] at h
      by_cases h1 : n < 0
      · exact ⟨_, if_pos h1, rfl⟩
      by_cases h2 : 0x10000000000000000 ≤ n
      · exact ⟨_, (if_neg h1).trans (if_pos h2), rfl⟩
      · exact ⟨_, ((if_neg h1).trans (if_neg h2)).trans (if_pos (by omega)), rfl⟩

theorem shortOf_guards : Guards shortOf 0x10000 fun _ => .packing where
  accepts {v n} h hn := by
    simp only [shortOf, h]
    rw [if_neg (by omega), if_neg (by omega), Int.toNat_natCast]
  refuses {v} h := by
    unfold shortOf
    cases hv : v.int? with
    | none => exact ⟨_, rfl, rfl⟩
    | some n =>
      rw [Value.fits_iff hv] at h
      by_cases h1 : n < -0x8000000000000000 ∨ 0x8000000000000000 ≤ n
      · exact ⟨_, if_pos h1, rfl⟩
      · exact ⟨_, (if_neg h1).trans (if_pos (by omega)), rfl⟩

theorem wordOf_guards : Guards wordOf 0x100000000 fun _ => .packing where
  accepts {v n} h hn := by
    simp only [wordOf, h]
    rw [if_neg (by omega), if_neg (by omega), Int.toNat_natCast]
  refuses {v} h := by
    unfold wordOf
    cases hv : v.int? with
    | none => exact ⟨_, rfl, rfl⟩
    | some n =>
      rw [Value.fits_iff hv] at h
      by_cases h1 : n < 0 ∨ 0x10000000000000000 ≤ n
      · exact ⟨_, if_pos h1, rfl⟩
      · exact ⟨_, (if_neg h1).trans (if_pos (by omega)), rfl⟩

theorem encode_of_some {stream ppid flags context : Value} {s p f c : Nat}
    (hs : stream.int? = some (s : Int)) (hsb : s < 0x10000)
    (hp : ppid.int? = some (p : Int)) (hpb : p < 0x100000000)
    (hf : flags.int? = some (f : Int)) (hfb : f < 0x10000)
    (hc : context.int? = some (c : Int)) (hcb : c < 0x100000000) :
    encode stream ppid flags context = .ok (layout s f p c) := by
  rw [encode, identifierOf_guards.accepts hp hpb, shortOf_guards.accepts hs hsb,
    shortOf_guards.accepts hf hfb, wordOf_guards.accepts hc hcb]
  rfl

/-- An unfit identifier is found before anything else is looked at. -/
theorem encode_of_unfit_identifier {ppid : Value} (h : ¬ ppid.Fits 0x100000000)
    (stream flags context : Value) :
    ∃ f, encode stream ppid flags context = .error f ∧ f.family = identifierFamily ppid := by
  obtain ⟨f, hf, hk⟩ := identifierOf_guards.refuses h
  exact ⟨f, by rw [encode, hf]; rfl, hk⟩

theorem encode_of_unfit_field {stream ppid flags context : Value} (hp : ppid.Fits 0x100000000)
    (h : ¬ (stream.Fits 0x10000 ∧ flags.Fits 0x10000 ∧ context.Fits 0x100000000)) :
    ∃ f, encode stream ppid flags context = .error f ∧ f.family = .packing := by
  obtain ⟨p, hp, hpb⟩ := hp
  rw [encode, identifierOf_guards.accepts hp hpb]
  by_cases hs : stream.Fits 0x10000
  · obtain ⟨s, hsv, hsb⟩ := hs
    rw [shortOf_guards.accepts hsv hsb]
    by_cases hf : flags.Fits 0x10000
    · obtain ⟨n, hfv, hfb⟩ := hf
      rw [shortOf_guards.accepts hfv hfb]
      obtain ⟨f, hf, hk⟩ := wordOf_guards.refuses (v := context)
        fun hc => h ⟨⟨s, hsv, hsb⟩, ⟨n, hfv, hfb⟩, hc⟩
      exact ⟨f, by rw [hf]; rfl, hk⟩
    · obtain ⟨f, hf, hk⟩ := shortOf_guards.refuses hf
      exact ⟨f, by rw [hf]; rfl, hk⟩
  · obtain ⟨f, hf, hk⟩ := shortOf_guards.refuses hs
    exact ⟨f, by rw [hf]; rfl, hk⟩

theorem fits_of_encode {stream ppid flags context : Value} {out : List UInt8}
    (h : encode stream ppid flags context = .ok out) :
    stream.Fits 0x10000 ∧ ppid.Fits 0x100000000 ∧ flags.Fits 0x10000 ∧
      context.Fits 0x100000000 := by
  by_cases hp : ppid.Fits 0x100000000
  · by_cases hfields : stream.Fits 0x10000 ∧ flags.Fits 0x10000 ∧ context.Fits 0x100000000
    · exact ⟨hfields.1, hp, hfields.2⟩
    · obtain ⟨f, hf, -⟩ := encode_of_unfit_field hp hfields
      rw [hf] at h
      cases h
  · obtain ⟨f, hf, -⟩ := encode_of_unfit_identifier hp stream flags context
    rw [hf] at h
    cases h

theorem length_layout (stream flags ppid context : Nat) :
    (layout stream flags ppid context).length = 32 := rfl

/-- What was written can be read, whatever stands behind it. -/
theorem decode_layout {stream flags ppid context : Nat} (hs : stream < 0x10000)
    (hf : flags < 0x10000) (hp : ppid < 0x100000000) (hc : context < 0x100000000)
    (suffix : List UInt8) :
    decode (layout stream flags ppid context ++ suffix) =
      .ok ⟨stream, 0, flags, ppid, context, 0, 0, 0, 0⟩ := by
  have hlen : ¬ (layout stream flags ppid context ++ suffix).length < size := by
    rw [List.length_append, length_layout, size]
    omega
  have hstream : slice (layout stream flags ppid context ++ suffix) 0 2 =
    Word.lowFirst 2 stream := rfl
  have hflags : slice (layout stream flags ppid context ++ suffix) 4 2 =
    Word.lowFirst 2 flags := rfl
  have hppid : slice (layout stream flags ppid context ++ suffix) 8 4 =
    Word.highFirst 4 ppid := rfl
  have hcontext : slice (layout stream flags ppid context ++ suffix) 12 4 =
    Word.lowFirst 4 context := rfl
  rw [decode, if_neg hlen, hstream, hflags, hppid, hcontext, Word.ofLowFirst_lowFirst hs,
    Word.ofLowFirst_lowFirst hf, Word.ofHighFirst_highFirst hp, Word.ofLowFirst_lowFirst hc]
  rfl

/-- Every byte that a sender has no say in is zero. -/
structure Blank (bs : List UInt8) : Prop where
  ssn : slice bs 2 2 = List.replicate 2 0
  gap : slice bs 6 2 = List.replicate 2 0
  timeToLive : slice bs 16 4 = List.replicate 4 0
  tsn : slice bs 20 4 = List.replicate 4 0
  cumulativeTsn : slice bs 24 4 = List.replicate 4 0
  association : slice bs 28 4 = List.replicate 4 0

theorem drop_eq_slice_append (bs : List UInt8) (offset width : Nat) :
    bs.drop offset = slice bs offset width ++ bs.drop (offset + width) := by
  rw [slice, ← List.drop_drop, List.take_append_drop]

theorem eq_slices {bs : List UInt8} (h : bs.length = 32) :
    bs = slice bs 0 2 ++ slice bs 2 2 ++ slice bs 4 2 ++ slice bs 6 2 ++ slice bs 8 4 ++
      slice bs 12 4 ++ (slice bs 16 4 ++ slice bs 20 4 ++ slice bs 24 4 ++ slice bs 28 4) := by
  have hall : bs = bs.drop 0 := rfl
  have hend : bs.drop 32 = [] := List.drop_eq_nil_of_le (by omega)
  conv => lhs; rw [hall, drop_eq_slice_append bs 0 2, drop_eq_slice_append bs 2 2,
    drop_eq_slice_append bs 4 2, drop_eq_slice_append bs 6 2, drop_eq_slice_append bs 8 4,
    drop_eq_slice_append bs 12 4, drop_eq_slice_append bs 16 4, drop_eq_slice_append bs 20 4,
    drop_eq_slice_append bs 24 4, drop_eq_slice_append bs 28 4, hend]
  simp only [List.append_assoc, List.append_nil]

theorem length_slice {bs : List UInt8} {offset width : Nat} (h : offset + width ≤ bs.length) :
    (slice bs offset width).length = width := by
  rw [slice, List.length_take, List.length_drop]
  omega

theorem ofLowFirst_slice_lt (bs : List UInt8) (offset width : Nat) :
    Word.ofLowFirst (slice bs offset width) < Nat.pow 256 width :=
  Word.ofLowFirst_lt _ (length_slice_le bs offset width)

theorem lowFirst_slice {bs : List UInt8} {offset width : Nat} (h : offset + width ≤ bs.length) :
    Word.lowFirst width (Word.ofLowFirst (slice bs offset width)) = slice bs offset width := by
  have hw := Word.lowFirst_ofLowFirst (slice bs offset width)
  rwa [length_slice h] at hw

theorem highFirst_slice {bs : List UInt8} {offset width : Nat} (h : offset + width ≤ bs.length) :
    Word.highFirst width (Word.ofHighFirst (slice bs offset width)) = slice bs offset width := by
  have hw := Word.highFirst_ofHighFirst (slice bs offset width)
  rwa [length_slice h] at hw

theorem layout_slices {bs : List UInt8} (h : bs.length = 32) (hblank : Blank bs) :
    layout (Word.ofLowFirst (slice bs 0 2)) (Word.ofLowFirst (slice bs 4 2))
      (Word.ofHighFirst (slice bs 8 4)) (Word.ofLowFirst (slice bs 12 4)) = bs := by
  conv => rhs; rw [eq_slices h, hblank.ssn, hblank.gap, hblank.timeToLive, hblank.tsn,
    hblank.cumulativeTsn, hblank.association]
  rw [layout, lowFirst_slice (by omega), lowFirst_slice (by omega), highFirst_slice (by omega),
    lowFirst_slice (by omega)]
  rfl

theorem encode_decode {bs : List UInt8} (h : bs.length = 32) (hblank : Blank bs) :
    ∃ d, decode bs = .ok d ∧
      encode (.int d.stream) (.int d.ppid) (.int d.flags) (.int d.context) = .ok bs := by
  refine ⟨_, by rw [decode, if_neg (by rw [size]; omega)], ?_⟩
  have hppid : Word.ofHighFirst (slice bs 8 4) < Nat.pow 256 4 :=
    Word.ofLowFirst_lt _ (by simpa using length_slice_le bs 8 4)
  rw [encode_of_some rfl (ofLowFirst_slice_lt bs 0 2) rfl hppid rfl (ofLowFirst_slice_lt bs 4 2)
    rfl (ofLowFirst_slice_lt bs 12 4), layout_slices h hblank]

theorem decode_error_iff (bs : List UInt8) : (∃ f, decode bs = .error f) ↔ bs.length < 32 := by
  constructor
  · rintro ⟨f, hf⟩
    by_cases h : bs.length < size
    · exact h
    · obtain ⟨d, hd⟩ := decode_long h
      rw [hd] at hf
      cases hf
  · intro h
    exact ⟨_, decode_short h⟩

/-- What can be written, which fault everything else causes, and that reading undoes writing and
writing undoes reading. -/
theorem codec_exact (stream ppid flags context : Value) (bs : List UInt8) :
    ((∃ out, encode stream ppid flags context = .ok out) ↔
      stream.Fits 0x10000 ∧ ppid.Fits 0x100000000 ∧ flags.Fits 0x10000 ∧
        context.Fits 0x100000000) ∧
    (¬ ppid.Fits 0x100000000 → ∃ f, encode stream ppid flags context = .error f ∧
      f.family = if ppid.int?.isSome then .overflow else .wrongType) ∧
    (ppid.Fits 0x100000000 →
      ¬ (stream.Fits 0x10000 ∧ flags.Fits 0x10000 ∧ context.Fits 0x100000000) →
      ∃ f, encode stream ppid flags context = .error f ∧ f.family = .packing) ∧
    (∀ out, encode stream ppid flags context = .ok out → out.length = 32 ∧
      ∃ s p f c : Int, stream.int? = some s ∧ ppid.int? = some p ∧ flags.int? = some f ∧
        context.int? = some c ∧
        ∀ suffix, decode (out ++ suffix) = .ok ⟨s, 0, f, p, c, 0, 0, 0, 0⟩) ∧
    (bs.length = 32 → Blank bs → ∃ d, decode bs = .ok d ∧
      encode (.int d.stream) (.int d.ppid) (.int d.flags) (.int d.context) = .ok bs) ∧
    ((∃ f, decode bs = .error f) ↔ bs.length < 32) ∧
    ∀ f, decode bs = .error f → f.family = .wrongValue := by
  refine ⟨⟨fun ⟨out, h⟩ => fits_of_encode h, ?_⟩,
    fun h => encode_of_unfit_identifier h stream flags context,
    encode_of_unfit_field, fun out h => ?_, encode_decode, decode_error_iff bs, fun f h => ?_⟩
  · rintro ⟨⟨s, hs, hsb⟩, ⟨p, hp, hpb⟩, ⟨n, hf, hfb⟩, c, hc, hcb⟩
    exact ⟨_, encode_of_some hs hsb hp hpb hf hfb hc hcb⟩
  · obtain ⟨⟨s, hs, hsb⟩, ⟨p, hp, hpb⟩, ⟨n, hf, hfb⟩, c, hc, hcb⟩ := fits_of_encode h
    rw [encode_of_some hs hsb hp hpb hf hfb hc hcb, Except.ok.injEq] at h
    subst h
    exact ⟨length_layout s n p c, s, p, n, c, hs, hp, hf, hc, decode_layout hsb hfb hpb hcb⟩
  · rw [decode_short ((decode_error_iff bs).1 ⟨f, h⟩)] at h
    cases h
    rfl

def brimful : List UInt8 :=
  [1, 0, 0, 0, 255, 255, 0, 0, 1, 2, 3, 4, 255, 255, 255, 255] ++ List.replicate 16 0

theorem codec_exact_brimful :
    (∃ f, encode .nothing (.int 0x100000000) .nothing .nothing = .error f ∧
      f.family = .overflow) ∧
    (∃ f, encode (.int 0x10000) (.int 0xffffffff) (.bool true) (.int (-1)) = .error f ∧
      f.family = .packing) ∧
    (∃ s p f c : Int, (Value.bool true).int? = some s ∧ (Value.int 0x01020304).int? = some p ∧
      (Value.int 0xffff).int? = some f ∧ (Value.int 0xffffffff).int? = some c ∧
      ∀ suffix, decode (brimful ++ suffix) = .ok ⟨s, 0, f, p, c, 0, 0, 0, 0⟩) ∧
    (∃ d, decode brimful = .ok d ∧
      encode (.int d.stream) (.int d.ppid) (.int d.flags) (.int d.context) = .ok brimful) ∧
    ∀ f, decode [1, 2, 3] = .error f → f.family = .wrongValue :=
  ⟨(codec_exact .nothing (.int 0x100000000) .nothing .nothing []).2.1 (by decide),
    (codec_exact (.int 0x10000) (.int 0xffffffff) (.bool true) (.int (-1)) []).2.2.1
      (by decide) (by decide),
    ((codec_exact (.bool true) (.int 0x01020304) (.int 0xffff) (.int 0xffffffff) []).2.2.2.1
      brimful rfl).2,
    (codec_exact .nothing .nothing .nothing .nothing brimful).2.2.2.2.1 rfl
      ⟨rfl, rfl, rfl, rfl, rfl, rfl⟩,
    (codec_exact .nothing .nothing .nothing .nothing [1, 2, 3]).2.2.2.2.2.2⟩

end DeliveryInfo

end SctpProbe
