import SctpProbe.Proofs.Delivery.Codec
set_option autoImplicit false

namespace SctpProbe.DeliveryInfo

/-- Changes of control messages that a reply does not depend on, any number of them in a row:
messages without delivery information come, go and move; what stands after delivery information
changes; the bytes beyond it change. -/
inductive Immaterial (messages : List ControlMessage) : List ControlMessage → Prop
  | none : Immaterial messages messages
  | others {xs ys : List ControlMessage} : Immaterial messages xs →
      xs.filter isCarrier = ys.filter isCarrier → Immaterial messages ys
  | later {before xs ys : List ControlMessage} {c : ControlMessage} :
      Immaterial messages (before ++ c :: xs) → isCarrier c = true →
      Immaterial messages (before ++ c :: ys)
  | beyond {before after : List ControlMessage} {level kind : Int} {bs tail bytes : List UInt8} :
      Immaterial messages (before ++ ⟨level, kind, bs ++ tail⟩ :: after) → bs.length = 32 →
      Immaterial messages (before ++ ⟨level, kind, bs ++ bytes⟩ :: after)

theorem slice_append {bs : List UInt8} {offset width : Nat} (h : offset + width ≤ bs.length)
    (tail : List UInt8) : slice (bs ++ tail) offset width = slice bs offset width := by
  rw [slice, slice, List.drop_append_of_le_length (by omega),
    List.take_append_of_le_length (by rw [List.length_drop]; omega)]

/-- Bytes beyond delivery information are not looked at. -/
theorem decode_append {bs : List UInt8} (h : bs.length = 32) (tail : List UInt8) :
    decode (bs ++ tail) = decode bs := by
  have hbs : ¬ bs.length < size := by rw [size]; omega
  have htail : ¬ (bs ++ tail).length < size := by rw [List.length_append, size]; omega
  have hfield {offset width : Nat} (hw : offset + width ≤ 32) :
      slice (bs ++ tail) offset width = slice bs offset width := slice_append (by omega) tail
  rw [decode, decode, if_neg hbs, if_neg htail, hfield (by decide), hfield (by decide),
    hfield (by decide), hfield (by decide), hfield (by decide), hfield (by decide),
    hfield (by decide), hfield (by decide), hfield (by decide)]

theorem among_eq (messages : List ControlMessage) :
    among messages = match (messages.filter isCarrier).head? with
      | none => .ok none
      | some c => (decode c.data).map some := by
  rw [List.head?_filter]
  rfl

theorem among_of_immaterial {messages others : List ControlMessage}
    (h : Immaterial messages others) : among others = among messages := by
  induction h with
  | none => rfl
  | others _ hsame ih => rw [← ih, among_eq, among_eq, hsame]
  | later _ hc ih =>
    rw [← ih, among, among, List.find?_append, List.find?_append, List.find?_cons_of_pos hc,
      List.find?_cons_of_pos hc]
  | @beyond before after level kind bs tail bytes _ hbs ih =>
    rw [← ih, among, among, List.find?_append, List.find?_append]
    cases before.find? isCarrier with
    | some c => rfl
    | none =>
      simp only [Option.none_or, List.find?_cons, isCarrier]
      cases level == sctp && kind == controlKind with
      | true => simp only [decode_append hbs]
      | false => rfl

theorem among_some {messages : List ControlMessage} {d : DeliveryInfo}
    (h : among messages = .ok (some d)) :
    ∃ c, messages.find? isCarrier = some c ∧ decode c.data = .ok d := by
  unfold among at h
  cases hc : messages.find? isCarrier with
  | none =>
    rw [hc] at h
    cases h
  | some c =>
    rw [hc] at h
    cases hd : decode c.data with
    | error f =>
      simp only [hd] at h
      cases h
    | ok found =>
      simp only [hd] at h
      cases h
      exact ⟨c, rfl, hd⟩

theorem fields_of_decode {bs : List UInt8} {d : DeliveryInfo} (h : decode bs = .ok d) :
    32 ≤ bs.length ∧ ∃ s p : Nat, d.stream = s ∧ d.ppid = p ∧ s < 0x10000 ∧ p < 0x100000000 ∧
      Word.lowFirst 2 s = slice bs 0 2 ∧ Word.highFirst 4 p = slice bs 8 4 := by
  by_cases hlen : bs.length < size
  · rw [decode_short hlen] at h
    cases h
  · rw [decode, if_neg hlen, Except.ok.injEq] at h
    rw [size] at hlen
    subst h
    have hppid : Word.ofHighFirst (slice bs 8 4) < Nat.pow 256 4 :=
      Word.ofLowFirst_lt _ (by simpa using length_slice_le bs 8 4)
    exact ⟨by omega, _, _, rfl, rfl, ofLowFirst_slice_lt bs 0 2, hppid,
      lowFirst_slice (by omega), highFirst_slice (by omega)⟩

theorem getElem?_slice {bs : List UInt8} {offset width i : Nat} (h : i < width) :
    (slice bs offset width)[i]? = bs[offset + i]? := by
  rw [slice, List.getElem?_take_of_lt h, List.getElem?_drop]

theorem getElem?_layout {bs : List UInt8} {s p : Nat} (hs : Word.lowFirst 2 s = slice bs 0 2)
    (hp : Word.highFirst 4 p = slice bs 8 4) (hbs : 32 ≤ bs.length) {i : Nat} (hi : i < 32) :
    (layout s 0 p 0)[i]? = if i < 2 ∨ 8 ≤ i ∧ i < 12 then bs[i]? else some 0 := by
  have hparts : layout s 0 p 0 = slice bs 0 2 ++ (List.replicate 6 0 ++ (slice bs 8 4 ++
      List.replicate 20 0)) := by
    rw [← hs, ← hp]
    rfl
  have hfirst : (slice bs 0 2).length = 2 := length_slice (by omega)
  have hsecond : (slice bs 8 4).length = 4 := length_slice (by omega)
  rw [hparts]
  rw [List.getElem?_append, hfirst]
  split
  · next h => rw [if_pos (.inl h), getElem?_slice h, Nat.zero_add]
  rw [List.getElem?_append, List.length_replicate]
  split
  · next h => rw [if_neg (by omega), List.getElem?_replicate_of_lt h]
  rw [List.getElem?_append, hsecond]
  split
  · next h =>
    have hi : 8 + (i - 2 - 6) = i := by omega
    rw [if_pos (by omega), getElem?_slice h, hi]
  · rw [if_neg (by omega), List.getElem?_replicate_of_lt (by omega)]

/-- What is sent back with a reply: one control message of 32 bytes that says stream and identifier
as they were received and nothing else. It reads as that, answers itself, and depends on nothing
but the delivery information that came first. -/
theorem reply_faithful {messages : List ControlMessage} {d : DeliveryInfo}
    (h : among messages = .ok (some d)) :
    ∃ (c : ControlMessage) (data : List UInt8), messages.find? isCarrier = some c ∧
      reply (some d) = .ok [⟨sctp, controlKind, data⟩] ∧ data.length = 32 ∧
      (∀ i < 32, data[i]? = if i < 2 ∨ 8 ≤ i ∧ i < 12 then c.data[i]? else some 0) ∧
      (∃ echoed : DeliveryInfo, among [⟨sctp, controlKind, data⟩] = .ok (some echoed) ∧
        echoed = ⟨d.stream, 0, 0, d.ppid, 0, 0, 0, 0, 0⟩ ∧ echoed.ordering = "ordered" ∧
        reply (some echoed) = .ok [⟨sctp, controlKind, data⟩]) ∧
      ∀ others, Immaterial messages others → among others = .ok (some d) := by
  obtain ⟨c, hc, hd⟩ := among_some h
  obtain ⟨hlen, s, p, hs, hp, hsb, hpb, hsw, hpw⟩ := fields_of_decode hd
  have hreply : reply (some d) = .ok [⟨sctp, controlKind, layout s 0 p 0⟩] := by
    rw [reply, hs, hp, encode_short_word hsb hpb]
    rfl
  have hread : decode (layout s 0 p 0 ++ []) = .ok ⟨s, 0, 0, p, 0, 0, 0, 0, 0⟩ :=
    decode_layout hsb (by decide) hpb (by decide) []
  rw [List.append_nil] at hread
  refine ⟨c, layout s 0 p 0, hc, hreply, length_layout s 0 p 0,
    fun i => getElem?_layout hsw hpw hlen,
    ⟨⟨d.stream, 0, 0, d.ppid, 0, 0, 0, 0, 0⟩, ?_, rfl, rfl, hreply⟩,
    fun others hothers => (among_of_immaterial hothers).trans h⟩
  rw [hs, hp]
  simp only [among, List.find?_cons, isCarrier, beq_self_eq_true, Bool.and_self, hread]
  rfl

def crowd : List ControlMessage :=
  [⟨1, 2, [7]⟩, ⟨sctp, controlKind, brimful ++ [9]⟩, ⟨sctp, controlKind, []⟩]

theorem reply_faithful_crowd :
    among crowd = .ok (some ⟨1, 0, 0xffff, 0x01020304, 0xffffffff, 0, 0, 0, 0⟩) ∧
    Immaterial crowd [⟨sctp, controlKind, brimful⟩] ∧
    among [⟨sctp, controlKind, brimful⟩] =
      .ok (some ⟨1, 0, 0xffff, 0x01020304, 0xffffffff, 0, 0, 0, 0⟩) ∧
    ∃ data, reply (some ⟨1, 0, 0xffff, 0x01020304, 0xffffffff, 0, 0, 0, 0⟩) =
      .ok [⟨sctp, controlKind, data⟩] ∧ data.length = 32 := by
  have h : among crowd = .ok (some ⟨1, 0, 0xffff, 0x01020304, 0xffffffff, 0, 0, 0, 0⟩) := rfl
  have hlater : Immaterial crowd ([⟨1, 2, [7]⟩] ++ [⟨sctp, controlKind, brimful ++ [9]⟩]) :=
    .later .none rfl
  have hbeyond : Immaterial crowd ([⟨1, 2, [7]⟩] ++ [⟨sctp, controlKind, brimful ++ []⟩]) :=
    .beyond hlater rfl
  have hothers : Immaterial crowd [⟨sctp, controlKind, brimful⟩] := hbeyond.others rfl
  obtain ⟨c, data, -, hreply, hlen, -, -, hall⟩ := reply_faithful h
  exact ⟨h, hothers, hall _ hothers, data, hreply, hlen⟩

end SctpProbe.DeliveryInfo
