import Mathlib.Algebra.Order.Floor.Div
import SctpProbe.HexDump
import SctpProbe.Proofs.Address.Peers
set_option autoImplicit false

/-!
What a dump tells about the bytes behind it. Its lines are described without the functions that
make them (`Line`), and a reader that looks at nothing but the hexadecimal columns finds the bytes
again (`read`). The columns begin behind the first blank and are as many as the width asks for, so
an offset that outgrows its four digits moves them and still does no harm.
-/

namespace SctpProbe

namespace HexDump

/-- Lower-case hexadecimal digits of a number: `least` of them or more, and more only if the first
one counts. -/
structure Numeral (least n : Nat) (cs : List Char) : Prop where
  value : (cs.mapM Address.hexDigit?).map Address.hexValue = some n
  lower : ∀ c ∈ cs, c ∈ "0123456789abcdef".toList
  enough : least ≤ cs.length
  fewest : least < cs.length → cs.head? ≠ some '0'

/-- The character for a byte: its own if it is a visible one of ASCII, a point otherwise. -/
structure Shown (b : UInt8) (c : Char) : Prop where
  low : 32 ≤ c.toNat
  high : c.toNat ≤ 126
  own : 32 ≤ b.toNat → b.toNat ≤ 126 → c.toNat = b.toNat
  point : ¬ (32 ≤ b.toNat ∧ b.toNat ≤ 126) → c = '.'

/-- The line of the bytes `bs` at an offset. -/
inductive Line (width offset : Nat) (bs : List UInt8) : List Char → Prop
  | of {digits chars : List Char} {pairs : List (List Char)} (blanks : Nat)
    (numeral : Numeral 4 offset digits)
    (bytes : List.Forall₂ (fun b p => Numeral 2 b.toNat p ∧ p.length = 2) bs pairs)
    (padded : ([' '].intercalate pairs).length + blanks = 3 * width - 1)
    (shown : List.Forall₂ Shown bs chars) :
    Line width offset bs
      (digits ++ [' ', ' '] ++ ([' '].intercalate pairs ++ List.replicate blanks ' ') ++
        [' ', ' '] ++ chars)

/-- A heading with the number of bytes and, separated by line feeds, a line for every `width` of
them. -/
structure Tells (title : String) (width : Nat) (bs : List UInt8) (s : String) : Prop where
  of ::
  lines : ∃ ls, Text.split '\n' s.toList =
      (title.toList ++ " (".toList ++ Nat.toDigits 10 bs.length ++ " bytes):".toList) :: ls ∧
    ls.length = bs.length ⌈/⌉ width ∧
    ∀ k (h : k < ls.length),
      Line width (k * width) ((bs.drop (k * width)).take width) (ls.get ⟨k, h⟩)

def readPairs : List Char → Option (List UInt8)
  | [] => some []
  | ' ' :: rest => readPairs rest
  | [_] => none
  | c :: d :: rest => do
    let high ← Address.hexDigit? c
    let low ← Address.hexDigit? d
    let bs ← readPairs rest
    return UInt8.ofNat (16 * high + low) :: bs

/-- The offset ends at the first blank, and two blanks behind it the columns begin. -/
def readLine (width : Nat) (cs : List Char) : Option (List UInt8) :=
  readPairs (((cs.dropWhile (· ≠ ' ')).drop 2).take (3 * width - 1))

def readLines (width : Nat) : List (List Char) → Option (List UInt8)
  | [] => some []
  | l :: ls => do
    let bs ← readLine width l
    let rest ← readLines width ls
    return bs ++ rest

def read (width : Nat) (s : String) : Option (List UInt8) :=
  readLines width (Text.split '\n' s.toList).tail

theorem numeral_hex {least : Nat} (hl : 0 < least) (n : Nat) :
    Numeral least n (Text.Quoted.hex least n) := by
  have hzero : Address.hexDigit? '0' = some 0 := by decide
  obtain ⟨ds, hds, hv⟩ := Address.exists_hexDigits n
  refine ⟨?_, ?_, ?_, ?_⟩
  · have hread : (Nat.toDigits 16 n).mapM Address.hexDigit? = some ds := by
      simp only [mapM_eq_some_iff, Address.hexDigit?_eq_some_iff]
      exact hds
    have hzeros (k : Nat) :
        (List.replicate k '0').mapM Address.hexDigit? = some (List.replicate k 0) := by
      induction k with
      | zero => rfl
      | succ k ih => simp [List.replicate_succ, hzero, ih]
    have hlead (k : Nat) : Address.hexValue (List.replicate k 0 ++ ds) = Address.hexValue ds := by
      induction k with
      | zero => rfl
      | succ k ih => simpa [Address.hexValue, List.replicate_succ] using ih
    simp [Text.Quoted.hex, hzeros, hread, hlead, hv]
  · have hdigit (d : Nat) (hd : d < 16) : d.digitChar ∈ "0123456789abcdef".toList := by
      interval_cases d <;> decide
    intro c hc
    rcases List.mem_append.1 hc with hc | hc
    · rw [List.eq_of_mem_replicate hc]
      decide
    · obtain ⟨d, hd, rfl⟩ := Text.mem_toDigits (by decide) hc
      exact hdigit d hd
  · simp only [Text.Quoted.hex, List.length_append, List.length_replicate]
    omega
  · intro h
    simp only [Text.Quoted.hex, List.length_append, List.length_replicate] at h
    have hk : least - (Nat.toDigits 16 n).length = 0 := by omega
    intro hhead
    rw [Text.Quoted.hex, hk] at hhead
    rw [Text.eq_zero_of_head_toDigits (by decide) hhead] at h
    simp at h
    omega

theorem length_hex {least n : Nat} (hn : n < 16 ^ least) (hl : 0 < least) :
    (Text.Quoted.hex least n).length = least := by
  have hle := (Nat.length_toDigits_le_iff (by decide) hl).2 hn
  simp only [Text.Quoted.hex, List.length_append, List.length_replicate]
  omega

theorem length_hex_byte (b : UInt8) : (Text.Quoted.hex 2 b.toNat).length = 2 :=
  length_hex b.toNat_lt_size (by decide)

theorem shown_visible (b : UInt8) : Shown b (visible b) := by
  unfold visible
  split
  · next h =>
    have hchar : (Char.ofNat b.toNat).toNat = b.toNat := by
      rw [Char.ofNat, dif_pos (.inl (by omega))]
      rfl
    exact ⟨by omega, by omega, fun _ _ => hchar, fun hn => absurd h hn⟩
  · next h => exact ⟨by decide, by decide, fun hl hh => absurd ⟨hl, hh⟩ h, fun _ => rfl⟩

theorem columns_eq (bs : List UInt8) :
    columns bs = [' '].intercalate (bs.map fun b => Text.Quoted.hex 2 b.toNat) := by
  induction bs with
  | nil => rfl
  | cons b rest ih =>
    cases rest with
    | nil => simp [columns]
    | cons c rest => simp [columns, ih, List.intercalate_cons_cons]

theorem length_columns (bs : List UInt8) : (columns bs).length = 3 * bs.length - 1 := by
  induction bs with
  | nil => rfl
  | cons b rest ih =>
    cases rest with
    | nil => simp [columns, length_hex_byte]
    | cons c rest =>
      simp only [columns, List.length_append, List.length_cons, length_hex_byte] at ih ⊢
      omega

theorem line_row {width : Nat} (offset : Nat) {bs : List UInt8} (h : bs.length ≤ width) :
    Line width offset bs (row width offset bs) := by
  have hlen := length_columns bs
  rw [row, padRight, columns_eq] at *
  refine .of _ (numeral_hex (by decide) offset) ?_ (by omega) ?_
  · rw [List.forall₂_map_right_iff]
    exact List.forall₂_same.2 fun b _ => ⟨numeral_hex (by decide) _, length_hex_byte b⟩
  · rw [List.forall₂_map_right_iff]
    exact List.forall₂_same.2 fun b _ => shown_visible b

section

variable {width : Nat} (hw : 0 < width)
include hw

theorem getElem?_rows (offset : Nat) (bs : List UInt8) (k : Nat) :
    (rows width offset bs)[k]? =
      if k * width < bs.length then
        some (row width (offset + k * width) ((bs.drop (k * width)).take width))
      else none := by
  fun_induction rows width offset bs generalizing k with
  | case1 offset bs h =>
    obtain rfl : bs = [] := h.resolve_right (by omega)
    simp
  | case2 offset bs h ih =>
    have hne : 0 < bs.length := List.length_pos_iff.2 fun he => h (.inl he)
    cases k with
    | zero => simp [hne]
    | succ k =>
      have hmul : (k + 1) * width = width + k * width := by rw [Nat.succ_mul, Nat.add_comm]
      have hlt : k * width < bs.length - width ↔ width + k * width < bs.length := by omega
      rw [List.getElem?_cons_succ, ih, List.length_drop, List.drop_drop, hmul]
      simp only [hlt, Nat.add_assoc]

theorem length_rows (offset : Nat) (bs : List UInt8) :
    (rows width offset bs).length = bs.length ⌈/⌉ width := by
  refine eq_of_forall_lt_iff fun k => ?_
  have hrow : k < (rows width offset bs).length ↔ k * width < bs.length := by
    rw [← not_iff_not, Nat.not_lt, ← List.getElem?_eq_none_iff, getElem?_rows hw]
    split <;> simp [*]
  rw [hrow, ← not_iff_not, Nat.not_lt, Nat.not_lt, ceilDiv_le_iff_le_mul hw, Nat.mul_comm]

theorem line_of_mem {offset : Nat} {bs : List UInt8} {l : List Char}
    (h : l ∈ rows width offset bs) : ∃ o cs, Line width o cs l := by
  obtain ⟨k, hk⟩ := List.mem_iff_getElem?.1 h
  rw [getElem?_rows hw] at hk
  split at hk
  · obtain rfl := Option.some.inj hk
    exact ⟨_, _, line_row _ (List.length_take_le width _)⟩
  · cases hk

end

theorem Numeral.not_mem {least n : Nat} {cs : List Char} (h : Numeral least n cs) {c : Char}
    (hc : c ∉ "0123456789abcdef".toList) : c ∉ cs :=
  fun hm => hc (h.lower c hm)

section

variable {width offset : Nat} {bs : List UInt8} {pairs : List (List Char)}

theorem newline_not_mem_columns
    (h : List.Forall₂ (fun b p => Numeral 2 b.toNat p ∧ p.length = 2) bs pairs) :
    '\n' ∉ [' '].intercalate pairs := by
  induction h with
  | nil => simp
  | @cons b p bs pairs hp _ ih =>
    have hpair : '\n' ∉ p := hp.1.not_mem (by decide)
    cases pairs with
    | nil => simpa using hpair
    | cons q rest => simpa [List.intercalate_cons_cons, hpair] using ih

theorem newline_not_mem_shown {chars : List Char} (h : List.Forall₂ Shown bs chars) :
    '\n' ∉ chars := by
  induction h with
  | nil => simp
  | cons hc _ ih =>
    rw [List.mem_cons, not_or]
    exact ⟨fun he => absurd (he ▸ hc.low) (by decide), ih⟩

theorem Line.newline_not_mem {cs : List Char} (h : Line width offset bs cs) : '\n' ∉ cs := by
  obtain ⟨blanks, numeral, bytes, -, shown⟩ := h
  have hdigits := numeral.not_mem (c := '\n') (by decide)
  have hcolumns := newline_not_mem_columns bytes
  have hblanks : '\n' ∉ List.replicate blanks ' ' := fun hb =>
    absurd (List.eq_of_mem_replicate hb) (by decide)
  have hgap : '\n' ∉ [' ', ' '] := by decide
  simp only [List.mem_append, not_or]
  exact ⟨⟨⟨⟨hdigits, hgap⟩, hcolumns, hblanks⟩, hgap⟩, newline_not_mem_shown shown⟩

theorem Numeral.pair {b : UInt8} {p : List Char} (h : Numeral 2 b.toNat p) (hl : p.length = 2) :
    ∃ c d x y, p = [c, d] ∧ Address.hexDigit? c = some x ∧ Address.hexDigit? d = some y ∧
      UInt8.ofNat (16 * x + y) = b := by
  obtain ⟨c, d, rfl⟩ := List.length_eq_two.1 hl
  obtain ⟨ds, hds, hv⟩ := Option.map_eq_some_iff.1 h.value
  rw [mapM_eq_some_iff] at hds
  cases hds with
  | cons hc hds =>
    cases hds with
    | cons hd hds =>
      cases hds
      refine ⟨c, d, _, _, rfl, hc, hd, ?_⟩
      rw [← UInt8.ofNat_toNat (x := b), ← hv]
      simp [Address.hexValue]

theorem readPairs_pair {c d : Char} {x y : Nat} (hc : Address.hexDigit? c = some x)
    (hd : Address.hexDigit? d = some y) (rest : List Char) :
    readPairs (c :: d :: rest) = (readPairs rest).map (UInt8.ofNat (16 * x + y) :: ·) := by
  have hblank : c ≠ ' ' := by
    rintro rfl
    cases hc
  rw [readPairs]
  · simp only [hc, hd, Option.bind_eq_bind, Option.bind_some, Option.map_eq_bind]
    rfl
  · exact hblank

theorem readPairs_blanks (n : Nat) : readPairs (List.replicate n ' ') = some [] := by
  induction n with
  | zero => rfl
  | succ n ih => rw [List.replicate_succ, readPairs, ih]

theorem readPairs_columns
    (h : List.Forall₂ (fun b p => Numeral 2 b.toNat p ∧ p.length = 2) bs pairs) (blanks : Nat) :
    readPairs ([' '].intercalate pairs ++ List.replicate blanks ' ') = some bs := by
  induction h with
  | nil => exact readPairs_blanks blanks
  | @cons b p bs pairs hp _ ih =>
    obtain ⟨c, d, x, y, rfl, hc, hd, hb⟩ := hp.1.pair hp.2
    have hfirst (rest : List Char) :
        readPairs ([c, d] ++ rest) = (readPairs rest).map (b :: ·) := by
      rw [List.cons_append, List.singleton_append, readPairs_pair hc hd, hb]
    cases pairs with
    | nil =>
      rw [List.intercalate_singleton, hfirst]
      exact congrArg (Option.map (b :: ·)) ih
    | cons q rest =>
      rw [List.intercalate_cons_cons, List.append_assoc, List.append_assoc, hfirst,
        List.singleton_append, readPairs, ih]
      rfl

theorem Line.readLine_eq {cs : List Char} (h : Line width offset bs cs) :
    readLine width cs = some bs := by
  obtain @⟨digits, chars, pairs, blanks, numeral, bytes, padded, shown⟩ := h
  have hblank : ∀ c ∈ digits, decide (c ≠ ' ') = true := fun c hc =>
    decide_eq_true fun he => numeral.not_mem (c := ' ') (by decide) (he ▸ hc)
  have hlen : ([' '].intercalate pairs ++ List.replicate blanks ' ').length = 3 * width - 1 := by
    rw [List.length_append, List.length_replicate, padded]
  generalize hcolumns : [' '].intercalate pairs ++ List.replicate blanks ' ' = cs at hlen
  have hdrop : ((digits ++ [' ', ' '] ++ cs ++ [' ', ' '] ++ chars).dropWhile (· ≠ ' ')).drop 2 =
      cs ++ ([' ', ' '] ++ chars) := by
    simp only [List.append_assoc]
    rw [List.dropWhile_append_of_pos hblank]
    rfl
  rw [readLine, hdrop, List.take_left' hlen, ← hcolumns]
  exact readPairs_columns bytes blanks

end

theorem readLines_rows {width : Nat} (hw : 0 < width) (offset : Nat) (bs : List UInt8) :
    readLines width (rows width offset bs) = some bs := by
  fun_induction rows width offset bs with
  | case1 offset bs h =>
    obtain rfl : bs = [] := h.resolve_right (by omega)
    rfl
  | case2 offset bs h ih =>
    have hline := (line_row offset (List.length_take_le width bs)).readLine_eq
    simp [readLines, hline, ih]

theorem toList_heading (title : String) (bs : List UInt8) :
    (heading title bs).toList =
      title.toList ++ " (".toList ++ Nat.toDigits 10 bs.length ++ " bytes):".toList := by
  rw [heading, String.toList_append, String.toList_append, String.toList_append]
  exact congrArg (title.toList ++ " (".toList ++ · ++ _) Nat.toList_repr

theorem split_text {title : String} (htitle : '\n' ∉ title.toList) {width : Nat} (hw : 0 < width)
    (bs : List UInt8) :
    Text.split '\n' (text title width bs).toList =
      (heading title bs).toList :: rows width 0 bs := by
  have hheading : '\n' ∉ (heading title bs).toList := by
    rw [toList_heading]
    simp only [List.mem_append, not_or]
    exact ⟨⟨⟨htitle, by decide⟩, Text.not_mem_toDigits (by decide) _⟩, by decide⟩
  have hrows : ∀ l ∈ rows width 0 bs, '\n' ∉ l := fun l hl =>
    (line_of_mem hw hl).elim fun _ ⟨_, h⟩ => h.newline_not_mem
  have htext : (text title width bs).toList =
      ['\n'].intercalate ((heading title bs).toList :: rows width 0 bs) := by
    have hid : String.toList ∘ String.ofList = id := funext fun _ => String.toList_ofList
    rw [text, String.toList_intercalate, List.map_cons, List.map_map, hid, List.map_id]
    rfl
  rw [htext, Text.split_intercalate (List.cons_ne_nil _ _)]
  rintro p hp
  rcases List.mem_cons.1 hp with rfl | hp
  · exact hheading
  · exact hrows p hp

section

variable {title : String} (htitle : '\n' ∉ title.toList) {width : Nat} (hw : 0 < width)
include htitle hw

theorem tells_text (bs : List UInt8) : Tells title width bs (text title width bs) := by
  refine ⟨rows width 0 bs, ?_, length_rows hw 0 bs, fun k hk => ?_⟩
  · rw [split_text htitle hw, toList_heading]
  · have hrow := getElem?_rows hw 0 bs k
    rw [List.getElem?_eq_getElem hk] at hrow
    split at hrow
    · rw [List.get_eq_getElem, Option.some.inj hrow, Nat.zero_add]
      exact line_row _ (List.length_take_le width _)
    · cases hrow

theorem read_text (bs : List UInt8) : read width (text title width bs) = some bs := by
  rw [read, split_text htitle hw]
  exact readLines_rows hw 0 bs

end

def dump [Machine] (title : String) (width : Nat) (bs : List UInt8) : Except Fault String :=
  ofValues (.bytes bs) (.text title) (.int width)

/-- Whether the columns of a line can be asked for, and held in memory. -/
def Fits [Machine] (width : Nat) : Prop :=
  3 * width - 1 ≤ columnLimit ∧ 3 * width ≤ Machine.memory

def tooWide (width : Nat) : Fault :=
  if ¬ Text.Writable (3 * width - 1 : Nat) then .tooManyDigits
  else if columnLimit < 3 * width - 1 then .columnsTooWide
  else .outOfMemory

section

variable [Machine] {title : String} {width : Nat} (hw : 0 < width) {bs : List UInt8}
include hw

theorem dump_eq :
    dump title width bs =
      if ¬ bs = [] ∧ ¬ Text.Writable (3 * width - 1 : Nat) then .error .tooManyDigits
      else if ¬ bs = [] ∧ columnLimit < 3 * width - 1 then .error .columnsTooWide
      else if ¬ bs = [] ∧ Machine.memory < 3 * width then .error .outOfMemory
      else .ok (text title width bs) := by
  have hzero : (width : Int) ≠ 0 := by omega
  simp only [dump, ofValues, bytesOf, Value.shown_text, Value.index, Value.int?, bind, Except.bind,
    if_neg hzero, Int.toNat_natCast, List.isEmpty_iff]
  rfl

/-- Bytes are dumped if the columns of a line fit, and no bytes in any case. -/
theorem dump_of_fits (h : bs = [] ∨ Fits width) :
    dump title width bs = .ok (text title width bs) := by
  rw [dump_eq hw]
  rcases h with rfl | ⟨hcolumns, hroom⟩
  · simp
  · have hwritable : Text.Writable (3 * width - 1 : Nat) :=
      Text.writable_of_lt (Nat.lt_of_le_of_lt hcolumns (by decide))
    rw [if_neg fun h => h.2 hwritable, if_neg fun h => Nat.not_lt.2 hcolumns h.2,
      if_neg fun h => Nat.not_lt.2 hroom h.2]

theorem dump_of_wide (hbs : bs ≠ []) (h : ¬ Fits width) :
    dump title width bs = .error (tooWide width) := by
  have hwide : columnLimit < 3 * width - 1 ∨ Machine.memory < 3 * width := by
    rw [Fits] at h
    omega
  rw [dump_eq hw, tooWide]
  simp only [hbs, not_false_eq_true, true_and]
  split
  · rfl
  · split
    · rfl
    · next hcolumns => rw [if_pos (hwide.resolve_left hcolumns)]

theorem dump_eq_ok_iff {s : String} :
    dump title width bs = .ok s ↔ (bs = [] ∨ Fits width) ∧ s = text title width bs := by
  by_cases h : bs = [] ∨ Fits width
  · rw [dump_of_fits hw h]
    simp [h, eq_comm]
  · obtain ⟨hbs, hroom⟩ := not_or.1 h
    rw [dump_of_wide hw hbs hroom]
    simp [hbs, hroom]

end

/-- Under a title of one line and at any width, a dump is made of all bytes whose columns fit; it
shows the bytes and can be read again, so no two byte strings share one. -/
theorem dump_reversible [Machine] {title : String} (htitle : '\n' ∉ title.toList) {width : Nat}
    (hw : 0 < width) :
    (∀ bs, (∃ s, dump title width bs = .ok s) ↔ bs = [] ∨ Fits width) ∧
    (∀ bs s, dump title width bs = .ok s → Tells title width bs s ∧ read width s = some bs) ∧
    ∀ bs cs s, dump title width bs = .ok s → dump title width cs = .ok s → bs = cs := by
  have hread (bs : List UInt8) (s : String) (h : dump title width bs = .ok s) :
      Tells title width bs s ∧ read width s = some bs := by
    obtain ⟨-, rfl⟩ := (dump_eq_ok_iff hw).1 h
    exact ⟨tells_text htitle hw bs, read_text htitle hw bs⟩
  refine ⟨fun bs => ?_, hread, fun bs cs s hb hc => ?_⟩
  · simp [dump_eq_ok_iff hw]
  · have h := (hread bs s hb).2
    rwa [(hread cs s hc).2, Option.some.injEq, eq_comm] at h

theorem dump_reversible_words :
    ('\n' ∉ "Words".toList ∧ 0 < 4) ∧
    ∃ s, dump "Words" 4 [104, 101, 108, 108, 111, 10] = .ok s ∧
      read 4 s = some [104, 101, 108, 108, 111, 10] := by
  have htitle : '\n' ∉ "Words".toList := by decide
  obtain ⟨hmade, hread, -⟩ := dump_reversible htitle (show 0 < 4 by decide)
  have hfits : Fits 4 := ⟨by decide, by decide⟩
  obtain ⟨s, hs⟩ := (hmade [104, 101, 108, 108, 111, 10]).2 (.inr hfits)
  exact ⟨⟨htitle, by decide⟩, s, hs, (hread _ s hs).2⟩

example : text "Word" 2 [97, 10, 122] = "Word (3 bytes):\n0000  61 0a  a.\n0002  7a     z" := by
  cbv

/-- A width of 64 bits needs more columns than can be asked for. -/
theorem dump_refused_wide : dump "Words" 9223372036854775808 [97] = .error .columnsTooWide := by
  have hwritable : Text.Writable (3 * 9223372036854775808 - 1 : Nat) :=
    Text.writable_of_lt (by decide)
  have hwide : ¬ Fits 9223372036854775808 := fun h => absurd h.1 (by decide)
  rw [dump_of_wide (by decide) (List.cons_ne_nil _ _) hwide, tooWide,
    if_neg (not_not.2 hwritable), if_pos (by decide)]

end HexDump
end SctpProbe
