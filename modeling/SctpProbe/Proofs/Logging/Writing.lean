import SctpProbe.Log.Record
import SctpProbe.Proofs.Address.Quad
import SctpProbe.Proofs.Logging.Filling
import SctpProbe.Proofs.Logging.Styles
set_option autoImplicit false

/-!
Records as they are written. In the layout of the server a record is its level mark, a blank and the
message with whatever follows it (`format_server`); colours change nothing but the styles. What a
formatter leaves on a record are notes, which the next one makes anew or does not look at
(`outputs_alike`), so every one of them writes what it would have written first.
-/

namespace SctpProbe

namespace Log

namespace Record

def fresh (r : Record) : Record := { r with message? := none, time? := none }

/-- What a record says: its message, its backtrace and its stack. -/
def body [Machine] (r : Record) : Except Fault String := do
  let message ← r.message
  let text ← Formatter.followedBy message r.backtrace
  Formatter.followedBy text r.stack

end Record

namespace Formatter

open Template (Supply)

def plainMark (level : Int) : List Char :=
  (levelName level).toList ++ ':' :: List.replicate (levelWidth - (levelName level).length) ' '

theorem length_plainMark (level : Int) :
    (plainMark level).length = max 9 ((levelName level).length + 1) := by
  simp only [plainMark, levelWidth, List.length_append, List.length_cons, List.length_replicate,
    String.length_toList]
  omega

theorem toList_levelMark (level : Int) : (levelMark false level).toList = plainMark level := by
  simp [levelMark, plainMark, String.length_toList]

theorem escape_not_mem_levelName (level : Int) : Text.Ansi.escape ∉ (levelName level).toList := by
  have hnat (n : Nat) : Text.Ansi.escape ∉ n.repr.toList := by
    rw [Nat.toList_repr]
    exact Text.not_mem_toDigits (by decide) n
  have hint : Text.Ansi.escape ∉ (toString level).toList := by
    change _ ∉ level.repr.toList
    cases level with
    | ofNat n => exact hnat n
    | negSucc n =>
      rw [Int.repr, String.toList_append, List.mem_append, not_or]
      exact ⟨by decide, hnat _⟩
  unfold levelName
  split
  · next l _ => cases l <;> decide
  · split
    · decide
    · rw [String.toList_append, List.mem_append, not_or]
      exact ⟨by decide, hint⟩

theorem unstyle_levelMark (coloured : Bool) (level : Int) (rest : List Char) :
    Text.Ansi.unstyle ((levelMark coloured level).toList ++ rest) =
      plainMark level ++ Text.Ansi.unstyle rest := by
  have hname := escape_not_mem_levelName level
  have hpad : Text.Ansi.escape ∉
      ':' :: List.replicate (levelWidth - (levelName level).length) ' ' := by
    simp [Text.Ansi.escape]
  have hmark : Text.Ansi.escape ∉ plainMark level := by
    rw [plainMark, List.mem_append, not_or]
    exact ⟨hname, hpad⟩
  cases coloured with
  | false => rw [toList_levelMark, Text.Ansi.unstyle_append_of_not_mem hmark]
  | true =>
    simp only [levelMark, if_true, String.toList_ofList, String.length_toList, List.append_assoc]
    rw [Text.Ansi.unstyle_coloured _ hname, Text.Ansi.unstyle_append_of_not_mem hpad, plainMark,
      List.append_assoc]

theorem lookup_attributes {r : Record} {message : String} (h : r.message? = some message)
    (mark : Value) :
    Supply.lookup (r.attributes ++ [("levelprefix", mark)]) "levelprefix".toList = .ok mark ∧
    Supply.lookup (r.attributes ++ [("levelprefix", mark)]) "message".toList =
      .ok (.text message) := by
  simp [Supply.lookup, Record.attributes, List.find?_append, h]
  cases r.styled? <;> cases r.time? <;> simp

theorem pieces_serverLayout :
    Template.pieces serverLayout.toList =
      [.conversion (Template.plainly (some "levelprefix".toList) 14), .literal ' ',
        .conversion (Template.plainly (some "message".toList) 26)] := by
  have hsplit : serverLayout.toList = '%' :: '(' :: ("levelprefix".toList ++ ')' :: 's' ::
      ([' '] ++ '%' :: '(' :: ("message".toList ++ ')' :: 's' :: []))) := by
    decide
  rw [Template.pieces, hsplit, Template.piecesFrom_named _ (by decide) (by decide),
    Template.piecesFrom_append _ (by decide),
    Template.piecesFrom_named _ (by decide) (by decide), Template.piecesFrom]
  rfl

theorem fill_serverLayout [Machine] {es : List (String × Value)} {mark message : String}
    (hmark : Supply.lookup es "levelprefix".toList = .ok (.text mark))
    (hmessage : Supply.lookup es "message".toList = .ok (.text message)) :
    Template.fill serverLayout (.mapping es) = .ok (mark ++ " " ++ message) := by
  have hsupply : Supply.ofValue (.mapping es) =
      Supply.from (Supply.lookup es) ⟨none, [.mapping es]⟩ := rfl
  rw [Template.fill, hsupply, pieces_serverLayout]
  simp only [Template.fillPieces, Template.fillConversion_plain_named, hmark, hmessage, Except.bind,
    bind, Value.shown_text, Except.map]
  simp [Supply.finish, Supply.from, pure, Except.pure, String.append_assoc]

theorem fill_plainLayout [Machine] {es : List (String × Value)} {message : String}
    (h : Supply.lookup es "message".toList = .ok (.text message)) :
    Template.fill plainLayout (.mapping es) = .ok message := by
  have hsplit : plainLayout.toList = '%' :: '(' :: ("message".toList ++ ')' :: 's' :: []) := by
    decide
  have hsupply : Supply.ofValue (.mapping es) =
      Supply.from (Supply.lookup es) ⟨none, [.mapping es]⟩ := rfl
  rw [Template.fill, hsupply, Template.pieces, hsplit,
    Template.piecesFrom_named _ (by decide) (by decide), Template.piecesFrom]
  simp only [Template.fillPieces, Template.fillConversion_plain_named, h, Except.bind, bind,
    Value.shown_text, Except.map]
  simp [Supply.finish, Supply.from, pure, Except.pure]

/-- The message with which a record is shown, if it is shown at all. -/
def wording [Machine] (f : Formatter) (r : Record) : Except Fault String := do
  let plain ← r.message
  match f.coloured, r.styled? with
  | true, some v => if v.truthy then r.filled v else return plain
  | _, _ => return plain

theorem followedBy_mark (mark message : String) (more : Value) :
    followedBy (mark ++ " " ++ message) more =
      (followedBy message more).map (mark ++ " " ++ ·) := by
  have hlast : (mark ++ " " ++ message).toList.getLast? = some '\n' ↔
      message.toList.getLast? = some '\n' := by
    rw [String.toList_append, String.toList_append, List.getLast?_append, List.getLast?_append]
    cases message.toList.getLast? <;> simp
  cases more with
  | text t =>
    simp only [followedBy, hlast, Except.map]
    split
    · rfl
    · split <;> simp only [String.append_assoc]
  | _ =>
    simp only [followedBy]
    split <;> rfl

theorem arranged_server [Machine] (coloured : Bool) {r : Record} {plain : String}
    (hm : r.message = .ok plain) (time? : Option String) :
    (server coloured).arranged { r with message? := some plain, time? := time? } =
      ((server coloured).wording r).map (levelMark coloured r.level ++ " " ++ ·) := by
  have hfill {shown : Record} {message : String} (hs : shown.message? = some message) :=
    fill_serverLayout (lookup_attributes hs (.text (levelMark coloured r.level))).1
      (lookup_attributes hs _).2
  have hplain := @hfill { r with message? := some plain, time? := time? } plain rfl
  simp only [arranged, dressed, wording, hm, bind, Except.bind]
  cases coloured with
  | false => exact hplain
  | true =>
    cases hs : r.styled? with
    | none => rw [hs] at hplain; exact hplain
    | some v =>
      rw [hs] at hplain
      simp only [server] at *
      by_cases htruthy : v.truthy = true
      · have hfilled : ({ r with styled? := some v, message? := some plain, time? := time? } :
            Record).filled v = r.filled v := rfl
        simp only [htruthy, if_true, hfilled]
        cases r.filled v with
        | error f => rfl
        | ok message => exact hfill rfl
      · simp only [htruthy]
        exact hplain

theorem format_server [Machine] (coloured : Bool) (r : Record) :
    (server coloured).format r =
      (((server coloured).wording r).bind fun message =>
        (followedBy message r.backtrace).bind fun text =>
          followedBy text r.stack).map (levelMark coloured r.level ++ " " ++ ·) := by
  simp only [format, apply, noted]
  cases hm : r.message with
  | error f => simp only [wording, hm]; rfl
  | ok plain =>
    simp only [bind, Except.bind, pure, Except.pure, arranged_server coloured hm]
    cases (server coloured).wording r with
    | error f => rfl
    | ok message =>
      simp only [Except.map, followedBy_mark]
      cases followedBy message r.backtrace with
      | error f => rfl
      | ok text =>
        simp only [Except.map, followedBy_mark]

theorem format_of_not_styled [Machine] {r : Record} (h : r.styled? = none) (coloured : Bool) :
    (server coloured).format r = r.body.map (levelMark coloured r.level ++ " " ++ ·) := by
  rw [format_server]
  cases hm : r.message with
  | error f => simp only [wording, Record.body, hm]; rfl
  | ok message =>
    cases coloured <;> simp only [wording, Record.body, hm, h] <;> rfl

theorem format_plainLayout [Machine] (r : Record) : format ⟨false, plainLayout⟩ r = r.body := by
  have htimed : timed ⟨false, plainLayout⟩ = false := by decide
  simp only [format, apply, noted, Record.body]
  cases r.message with
  | error f => rfl
  | ok message =>
    have hlookup := (@lookup_attributes { r with message? := some message } message rfl
      (.text (levelMark false r.level))).2
    simp only [htimed, bind, Except.bind, pure, Except.pure, arranged, dressed, Bool.false_eq_true,
      if_false, fill_plainLayout hlookup]

def Joins (v : Value) : Prop := v = .nothing ∨ ∃ t, v = .text t

theorem followedBy_of_joins {v : Value} (h : Joins v) (text : String) :
    ∃ s, followedBy text v = .ok s := by
  rcases h with rfl | ⟨t, rfl⟩
  · exact ⟨text, rfl⟩
  · exact ⟨_, rfl⟩

theorem exists_body [Machine] {r : Record} {message : String} (hm : r.message = .ok message)
    (hb : Joins r.backtrace) (hs : Joins r.stack) : ∃ s, r.body = .ok s := by
  obtain ⟨text, htext⟩ := followedBy_of_joins hb message
  obtain ⟨s, hs⟩ := followedBy_of_joins hs text
  refine ⟨s, ?_⟩
  simp only [Record.body, hm, htext, bind, Except.bind, hs]

theorem unstyle_marked (coloured : Bool) (level : Int) (text : String) :
    Text.Ansi.unstyle (levelMark coloured level ++ " " ++ text).toList =
      plainMark level ++ ' ' :: Text.Ansi.unstyle text.toList := by
  have hblank : Text.Ansi.unstyle (" ".toList ++ text.toList) =
      ' ' :: Text.Ansi.unstyle text.toList :=
    Text.Ansi.unstyle_append_of_not_mem (by decide) _
  rw [String.toList_append, String.toList_append, List.append_assoc, unstyle_levelMark, hblank]

/-- The record as formatters leave it. -/
def left [Machine] : List Formatter → Record → Record
  | [], r => r
  | f :: fs, r => left fs (f.apply r).1

def Named (f : Formatter) : Prop := Template.Named (Template.pieces f.layout.toList)

theorem fresh_apply [Machine] (f : Formatter) (r : Record) : (f.apply r).1.fresh = r.fresh := by
  simp only [apply, noted]
  cases r.message <;> rfl

theorem fresh_left [Machine] (fs : List Formatter) (r : Record) : (left fs r).fresh = r.fresh := by
  induction fs generalizing r with
  | nil => rfl
  | cons f fs ih => rw [left, ih, fresh_apply]

theorem holds_of_infix {part cs : List Char} (h : part <:+: cs) : holds part cs = true := by
  induction cs with
  | nil => simpa [holds] using h
  | cons c r ih =>
    rw [holds, Bool.or_eq_true, List.isPrefixOf_iff_prefix]
    exact (List.infix_cons_iff.1 h).imp id ih

theorem asctime_of_named {f : Formatter} {c : Template.Conversion} {name : List Char}
    (hc : .conversion c ∈ Template.pieces f.layout.toList) (hn : c.name? = some name)
    (ht : f.timed = false) : name ≠ "asctime".toList := by
  rintro rfl
  have hholds : f.timed = true := holds_of_infix (Template.infix_of_mem_piecesFrom _ hc hn)
  rw [ht] at hholds
  cases hholds

theorem lookup_attributes_time (r : Record) (time? : Option String) (mark : Value)
    {name : List Char} (h : name ≠ "asctime".toList) :
    Supply.lookup
        (({ r with time? := time? } : Record).attributes ++ [("levelprefix", mark)]) name =
      Supply.lookup (r.attributes ++ [("levelprefix", mark)]) name := by
  have hname : ("asctime" == String.ofList name) = false := by
    rw [beq_eq_false_iff_ne]
    intro he
    exact h (by rw [he, String.toList_ofList])
  have hfind (t? : Option String) :
      (t?.map fun s => ("asctime", Value.text s)).toList.find?
        (fun e => e.1 == String.ofList name) = none := by
    cases t? <;> simp [hname]
  simp only [Supply.lookup, Record.attributes, List.find?_append, hfind]

/-- A layout without the time does not see the one that is noted. -/
theorem arranged_of_named [Machine] {f : Formatter} (hf : f.Named) (ht : f.timed = false)
    (r : Record) (time? : Option String) : f.arranged { r with time? := time? } = f.arranged r := by
  have hdressed : f.dressed { r with time? := time? } =
      (f.dressed r).map fun shown => { shown with time? := time? } := by
    cases r with
    | mk name level template arguments styled? backtrace stack message? time =>
      simp only [dressed]
      cases f.coloured with
      | false => rfl
      | true =>
        cases styled? with
        | none => rfl
        | some v =>
          by_cases hv : v.truthy = true
          · have hfilled : (Record.mk name level template arguments (some v) backtrace stack
                message? time?).filled v = (Record.mk name level template arguments (some v)
                backtrace stack message? time).filled v := rfl
            simp only [hv, if_true, hfilled, bind, Except.bind]
            cases (Record.mk name level template arguments (some v) backtrace stack
              message? time).filled v <;> rfl
          · simp only [hv]
            rfl
  simp only [arranged, hdressed, bind]
  cases f.dressed r with
  | error e => rfl
  | ok shown =>
    have hfill := Template.fillPieces_named hf fun c name hc hn =>
      lookup_attributes_time shown time? (.text (levelMark f.coloured r.level))
        (asctime_of_named hc hn ht)
    exact congrArg (Except.map String.ofList) (hfill ⟨none, [_]⟩ ⟨none, [_]⟩)

theorem time_apply [Machine] {f : Formatter} (h : f.timed = false) (r : Record) :
    (f.apply r).1.time? = r.time? := by
  simp only [apply, noted, h]
  cases r.message <;> rfl

/-- Notes of others do not show. -/
theorem apply_alike [Machine] {f : Formatter} {r : Record}
    (h : f.timed = true ∨ f.Named ∨ r.time? = none) : (f.apply r).2 = f.format r.fresh := by
  have hmessage : r.fresh.message = r.message := rfl
  simp only [format, apply, noted, hmessage]
  cases r.message with
  | error e => rfl
  | ok message =>
    have harranged :
        f.arranged { r with
          message? := some message, time? := if f.timed then some epoch else r.time? } =
        f.arranged { r.fresh with
          message? := some message, time? := if f.timed then some epoch else none } := by
      cases ht : f.timed with
      | true => rfl
      | false =>
        rcases h with h | hf | hn
        · rw [ht] at h
          cases h
        · exact (arranged_of_named hf ht _ none).symm
        · rw [hn]
          rfl
    simp only [bind, Except.bind, pure, Except.pure, harranged]
    rfl

theorem outputs_alike [Machine] {fs : List Formatter} {r : Record}
    (h : ∀ f ∈ fs, f.timed = true ∨ f.Named ∨ r.time? = none ∧ ∀ g ∈ fs, g.timed = false) :
    outputs fs r = fs.map fun f => f.format r.fresh := by
  induction fs generalizing r with
  | nil => rfl
  | cons f fs ih =>
    have hhead := h f List.mem_cons_self
    rw [outputs, List.map_cons, apply_alike (hhead.imp id (Or.imp id And.left)), ih, fresh_apply]
    intro g hg
    refine (h g (List.mem_cons_of_mem f hg)).imp id (Or.imp id fun hg => ⟨?_, ?_⟩)
    · rw [time_apply (hg.2 f List.mem_cons_self), hg.1]
    · exact fun k hk => hg.2 k (List.mem_cons_of_mem f hk)

theorem outputs_layout [Machine] (layout : String) (colours : List Bool) (r : Record) :
    outputs (colours.map (⟨·, layout⟩)) r.fresh =
      colours.map fun c => format ⟨c, layout⟩ r.fresh := by
  have htimed (f : Formatter) (hf : f ∈ colours.map (⟨·, layout⟩)) :
      f.timed = holds "%(asctime)".toList layout.toList := by
    obtain ⟨c, -, rfl⟩ := List.mem_map.1 hf
    rfl
  rw [outputs_alike, List.map_map]
  · rfl
  · intro f hf
    cases ht : f.timed with
    | true => exact .inl rfl
    | false => exact .inr (.inr ⟨rfl, fun g hg => by rw [htimed g hg, ← htimed f hf, ht]⟩)

/-- What is written for a record is its level mark and this text behind it, with colours or without
them: they differ in styles only. -/
structure Agrees [Machine] (r : Record) (text : String) : Prop where
  plain : (server false).format r = .ok (String.ofList (plainMark r.level ++ ' ' :: text.toList))
  coloured : ∃ s, (server true).format r = .ok s ∧
    Text.Ansi.unstyle s.toList = Text.Ansi.unstyle (plainMark r.level ++ ' ' :: text.toList)
  visible : Text.Ansi.unstyle (plainMark r.level ++ ' ' :: text.toList) =
    plainMark r.level ++ ' ' :: Text.Ansi.unstyle text.toList

theorem agrees_of_unstyle [Machine] {r : Record} {plain coloured : String}
    (hp : (server false).format r = .ok (levelMark false r.level ++ " " ++ plain))
    (hc : (server true).format r = .ok (levelMark true r.level ++ " " ++ coloured))
    (h : Text.Ansi.unstyle coloured.toList = Text.Ansi.unstyle plain.toList) : Agrees r plain := by
  have hplain : levelMark false r.level ++ " " ++ plain =
      String.ofList (plainMark r.level ++ ' ' :: plain.toList) := by
    rw [← String.toList_inj, String.toList_ofList, String.toList_append, String.toList_append,
      toList_levelMark, List.append_assoc]
    rfl
  have hvisible := unstyle_marked false r.level plain
  rw [hplain, String.toList_ofList] at hvisible
  refine ⟨hp.trans (congrArg Except.ok hplain), ⟨_, hc, ?_⟩, hvisible⟩
  rw [unstyle_marked, h, hvisible]

theorem agrees_of_not_styled [Machine] {r : Record} (h : r.styled? = none) {text : String}
    (hb : r.body = .ok text) : Agrees r text := by
  have hformat (coloured : Bool) :
      (server coloured).format r = .ok (levelMark coloured r.level ++ " " ++ text) := by
    rw [format_of_not_styled h, hb]
    rfl
  exact agrees_of_unstyle (hformat false) (hformat true) rfl

end Formatter

end Log

end SctpProbe
