import SctpProbe.Proofs.Logging.Writing
import SctpProbe.Server.Basic
set_option autoImplicit false

namespace SctpProbe

namespace Server

open Log Log.Formatter Text

/-- The record behind the announcement. The address is still to be put in, into the message as well
as into the one for terminals. -/
def notice (mode : Mode) (address : Value) : Record :=
  let start := "SCTP " ++ mode.name ++ " server listening on "
  let rest := " (Press CTRL+C to quit)"
  ⟨.text Speaker.server.name, Level.info.number, .text (start ++ "%s" ++ rest), .tuple [address],
    some (.text (start ++ String.ofList (Ansi.bold ['%', 's']) ++ rest)), .nothing, .nothing, none,
    none⟩

def noticeStart (mode : Mode) : List Char :=
  ("SCTP " ++ mode.name ++ " server listening on ").toList

def noticeRest : List Char := " (Press CTRL+C to quit)".toList

theorem plain_noticeStart (mode : Mode) :
    '%' ∉ noticeStart mode ∧ Ansi.escape ∉ noticeStart mode := by
  cases mode <;> decide

section

variable {mode : Mode} {address : Value} {shown : String} (h : address.shown = .ok shown)
include h

theorem filled_notice [Machine] {before after : List Char} (hb : '%' ∉ before) (ha : '%' ∉ after) :
    (notice mode address).filled (.text (String.ofList (before ++ '%' :: 's' :: after))) =
      .ok (String.ofList (before ++ shown.toList ++ after)) := by
  have hfill := Template.fill_single hb ha address
  rw [h] at hfill
  exact hfill

theorem message_notice [Machine] :
    (notice mode address).message = .ok (announcement mode shown).message := by
  have htemplate : (notice mode address).template =
      .text (String.ofList (noticeStart mode ++ '%' :: 's' :: noticeRest)) := by
    refine congrArg Value.text (String.toList_inj.1 ?_)
    rw [String.toList_ofList, String.toList_append, String.toList_append, List.append_assoc]
    rfl
  rw [Record.message, htemplate, filled_notice h (plain_noticeStart mode).1 (by decide)]
  refine congrArg Except.ok (String.toList_inj.1 ?_)
  rw [String.toList_ofList, announcement, String.toList_append, String.toList_append]
  rfl

theorem wording_notice [Machine] :
    (server true).wording (notice mode address) =
      .ok (String.ofList (noticeStart mode ++ (Ansi.bold shown.toList ++ noticeRest))) := by
  have hpercent := (plain_noticeStart mode).1
  have hbold : '%' ∉ noticeStart mode ++ Ansi.sequence ['1'] := by
    rw [List.mem_append, not_or]
    exact ⟨hpercent, by decide⟩
  have hstyled : (notice mode address).styled? = some (.text (String.ofList
      (noticeStart mode ++ Ansi.sequence ['1'] ++ '%' :: 's' :: (Ansi.reset ++ noticeRest)))) := by
    refine congrArg (fun s => some (Value.text s)) (String.toList_inj.1 ?_)
    rw [String.toList_ofList, String.toList_append, String.toList_append, String.toList_ofList,
      Ansi.bold]
    simp only [List.append_assoc]
    rfl
  have htruthy : (Value.text (String.ofList (noticeStart mode ++ Ansi.sequence ['1'] ++
      '%' :: 's' :: (Ansi.reset ++ noticeRest)))).truthy = true := by
    simp [Value.truthy]
  simp only [wording, message_notice h, hstyled, server, htruthy, if_true, bind, Except.bind]
  rw [filled_notice h hbold (by decide)]
  simp only [Ansi.bold, List.append_assoc]

theorem agrees_notice [Machine] :
    Agrees (notice mode address) (announcement mode shown).message := by
  have hescape := (plain_noticeStart mode).2
  have hplain : (announcement mode shown).message.toList =
      noticeStart mode ++ (shown.toList ++ noticeRest) := by
    rw [announcement, String.toList_append, String.toList_append, List.append_assoc]
    rfl
  have hwording : (server false).wording (notice mode address) =
      .ok (announcement mode shown).message := by
    rw [wording, message_notice h]
    rfl
  have hp : (server false).format (notice mode address) =
      .ok (levelMark false (notice mode address).level ++ " " ++
        (announcement mode shown).message) := by
    rw [format_server, hwording]
    rfl
  have hc : (server true).format (notice mode address) =
      .ok (levelMark true (notice mode address).level ++ " " ++
        String.ofList (noticeStart mode ++ (Ansi.bold shown.toList ++ noticeRest))) := by
    rw [format_server, wording_notice h]
    rfl
  have hcut : Ansi.Severs noticeRest := Ansi.severs_blank _
  refine agrees_of_unstyle hp hc ?_
  rw [String.toList_ofList, hplain, Ansi.unstyle_append_of_not_mem hescape, Ansi.unstyle_bold,
    Ansi.unstyle_append_of_not_mem hescape, Ansi.unstyle_append hcut]

end

def addressArgument (name : Value) (peer : Option Peer) (shown : String) : Value :=
  match peer with
  | some _ => .text shown
  | none => name

/-- Whatever address is announced, the message is that of the record with the address in it. -/
theorem agrees_announced [Machine] {mode : Mode} {around : Surroundings} {socket : ServerSocket}
    {e : Entry} (h : (announce mode around socket).1 = [.log e]) :
    ∃ peer shown, Peer.ofSocketAddress socket.name = .ok peer ∧
      addressShown socket.name peer = .ok shown ∧ e = announcement mode shown ∧
      Agrees (notice mode (addressArgument socket.name peer shown)) e.message := by
  unfold announce at h
  split at h
  · cases h
  · split at h
    · cases h
    · next peer hp =>
      split at h
      · next shown hs =>
        obtain rfl : e = announcement mode shown := by simpa using h.symm
        refine ⟨peer, shown, hp, hs, rfl, agrees_notice ?_⟩
        cases peer with
        | none => exact hs
        | some p => rfl
      · split at h <;> cases h

end Server

namespace Log.Formatter

/-- Colours change nothing but the styles of what is written, be it a message of any kind or the
announcement of the server, and however often a record is written, it is written as if for the
first time. -/
theorem colours_immaterial [Machine] :
    (∀ level, (plainMark level).length = max 9 ((levelName level).length + 1)) ∧
    (∀ r : Record, r.styled? = none → ∀ message, r.message = .ok message →
      Joins r.backtrace → Joins r.stack → ∃ text, r.body = .ok text ∧ Agrees r text) ∧
    (∀ mode (address : Value) shown, address.shown = .ok shown →
      Agrees (Server.notice mode address) (Server.announcement mode shown).message) ∧
    (∀ mode around socket e, (Server.announce mode around socket).1 = [.log e] →
      ∃ peer shown, Peer.ofSocketAddress socket.name = .ok peer ∧
        Server.addressShown socket.name peer = .ok shown ∧ e = Server.announcement mode shown ∧
        Agrees (Server.notice mode (Server.addressArgument socket.name peer shown)) e.message) ∧
    (∀ layout (colours : List Bool) r, outputs (colours.map (⟨·, layout⟩)) (Record.fresh r) =
      colours.map fun c => format ⟨c, layout⟩ r.fresh) ∧
    (∀ fs r, (∀ f ∈ fs, Named f) → outputs fs (Record.fresh r) = fs.map (format · r.fresh)) ∧
    ∀ fs r, (left fs r).fresh = r.fresh := by
  refine ⟨length_plainMark, fun r hr message hm hb hs => ?_, fun _ _ _ h => Server.agrees_notice h,
    fun _ _ _ _ h => Server.agrees_announced h, outputs_layout, fun fs r h => ?_, fresh_left⟩
  · obtain ⟨text, htext⟩ := exists_body hm hb hs
    exact ⟨text, htext, agrees_of_not_styled hr htext⟩
  · exact outputs_alike fun f hf => .inr (.inl (h f hf))

def sample : Record :=
  ⟨.text rootName, 35, .text "%s of a kind", .tuple [.text "Two"], none, .nothing, .text "Stack",
    none, none⟩

theorem colours_immaterial_sample :
    (sample.styled? = none ∧ sample.message = .ok "Two of a kind") ∧
    Agrees sample "Two of a kind\nStack" ∧
    outputs [server true, server false, server true] sample.fresh =
      [server true, server false, server true].map (format · sample.fresh) := by
  obtain ⟨-, hagrees, -, -, hlayout, -, -⟩ := colours_immaterial
  have hmessage : sample.message = .ok "Two of a kind" :=
    @Template.fill_single _ [] " of a kind".toList (by decide) (by decide) (.text "Two")
  obtain ⟨text, htext, h⟩ := hagrees sample rfl _ hmessage (.inl rfl) (.inr ⟨_, rfl⟩)
  have hbody : sample.body = .ok "Two of a kind\nStack" := by
    rw [Record.body, hmessage]
    decide
  rw [hbody, Except.ok.injEq] at htext
  subst htext
  exact ⟨⟨rfl, hmessage⟩, h, hlayout serverLayout [true, false, true] sample⟩

end Log.Formatter

end SctpProbe
