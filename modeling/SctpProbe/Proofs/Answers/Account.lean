import SctpProbe.Proofs.Frame
import SctpProbe.Proofs.Sending
set_option autoImplicit false

/-!
What has to be told about a piece of a message and what has to be sent back: `Piece.account` says it
from the bytes of the piece and of its first control message with delivery information. Handling a
piece shows just that (`Mailbox.account_handle`).
-/

namespace SctpProbe

open Network

namespace Text

/-- Whether a text stays as it is on one line of a console. -/
def plain (s : String) : Bool := s.toList.all fun c => c != '\n' && c != Ansi.escape

theorem plain_append (a b : String) : plain (a ++ b) = (plain a && plain b) := by
  simp [plain]

theorem plain_toString (n : Nat) : plain (toString n) = true := by
  refine List.all_eq_true.2 fun c hc => ?_
  change c ∈ n.repr.toList at hc
  rw [Nat.toList_repr] at hc
  have hdigit := Nat.isDigit_of_mem_toDigits (by decide) (by decide) hc
  have hline : c ≠ '\n' := fun h => absurd (h ▸ hdigit) (by decide)
  have hescape : c ≠ Ansi.escape := fun h => absurd (h ▸ hdigit) (by decide)
  simp [hline, hescape]

end Text

theorem Text.not_mem_of_plain {s : String} (h : Text.plain s = true) :
    '\n' ∉ s.toList ∧ Text.Ansi.escape ∉ s.toList := by
  have hall := List.all_eq_true.1 h
  exact ⟨fun hc => by simpa using hall _ hc, fun hc => by simpa using hall _ hc⟩

theorem console_line {text : String} (h : Text.plain text = true) :
    console text = [.line text] := by
  have hn := Text.not_mem_of_plain h
  rw [console, Text.Ansi.strip_of_not_mem hn.2, Text.split_of_not_mem hn.1]
  simp

theorem console_lines {text a b : String} (ht : text.toList = a.toList ++ '\n' :: b.toList)
    (ha : Text.plain a = true) (hb : Text.plain b = true) :
    console text = [.line a, .line b] := by
  have hfirst := Text.not_mem_of_plain ha
  have hsecond := Text.not_mem_of_plain hb
  have hescape : Text.Ansi.escape ∉ a.toList ++ '\n' :: b.toList := by
    simp only [List.mem_append, List.mem_cons, not_or]
    exact ⟨hfirst.2, by decide, hsecond.2⟩
  rw [console, ht, Text.Ansi.strip_of_not_mem hescape, Text.split_append_cons hfirst.1,
    Text.split_of_not_mem hsecond.1]
  simp

namespace DeliveryInfo

def lines (bs : List UInt8) : List String :=
  let low (offset width : Nat) : Nat := Word.ofLowFirst (slice bs offset width)
  let ordering := if low 4 2 % 2 = 1 then "unordered" else "ordered"
  ["\t stream: " ++ toString (low 0 2) ++ " ppid: " ++
      toString (Word.ofHighFirst (slice bs 8 4)) ++ " context: " ++ toString (low 12 4),
    "\t ssn: " ++ toString (low 2 2) ++ " tsn: " ++ toString (low 20 4) ++
      " cumtsn: " ++ toString (low 24 4) ++ " [" ++ ordering ++ "]"]

theorem decode_short {bs : List UInt8} (h : bs.length < size) :
    decode bs = .error (.shortDeliveryInfo bs.length) := by
  rw [decode, if_pos h]

theorem decode_long {bs : List UInt8} (h : ¬ bs.length < size) : ∃ d, decode bs = .ok d := by
  rw [decode, if_neg h]
  exact ⟨_, rfl⟩

theorem description_of_decode {bs : List UInt8} {d : DeliveryInfo} (h : decode bs = .ok d) :
    ∃ first second, lines bs = [first, second] ∧ d.description = first ++ "\n" ++ second := by
  refine ⟨_, _, rfl, ?_⟩
  have hshow (n : Nat) : toString (n : Int) = toString n := rfl
  unfold decode at h
  split at h
  · simp at h
  · simp only [Except.ok.injEq] at h
    subst h
    have hbit : (((Word.ofLowFirst (slice bs 4 2) : Nat) : Int) % 2 == 1) =
        decide (Word.ofLowFirst (slice bs 4 2) % 2 = 1) := by
      rw [Bool.beq_eq_decide_eq]
      congr 1
      simp only [eq_iff_iff]
      omega
    unfold description
    simp only [hshow, ordering, unordered, hbit, decide_eq_true_eq, String.append_assoc]

theorem plain_lines (bs : List UInt8) : ∀ text ∈ lines bs, Text.plain text = true := by
  have ho : Text.plain
      (if Word.ofLowFirst (slice bs 4 2) % 2 = 1 then "unordered" else "ordered") = true := by
    split <;> decide
  intro text ht
  simp only [lines, List.mem_cons, List.not_mem_nil, or_false] at ht
  rcases ht with rfl | rfl
  · simp only [Text.plain_append, Text.plain_toString]
    decide
  · simp only [Text.plain_append, Text.plain_toString, ho]
    decide

theorem console_description {bs : List UInt8} {d : DeliveryInfo} (h : decode bs = .ok d) :
    console d.description = (lines bs).map Event.line := by
  obtain ⟨first, second, hl, hd⟩ := description_of_decode h
  have hplain := plain_lines bs
  rw [hl] at hplain ⊢
  refine console_lines ?_ (hplain first (by simp)) (hplain second (by simp))
  have hbreak : "\n".toList = ['\n'] := by decide
  simp only [hd, String.toList_append, List.append_assoc, hbreak, List.cons_append,
    List.nil_append]

end DeliveryInfo

namespace Network

variable {α : Type}

def Event.told : Event → Bool
  | .log e => e.level != .debug
  | e => !e.isStop

namespace Trace

theorem filter_told_console (text : String) :
    (console text).filter Event.told = console text := by
  rw [List.filter_eq_self]
  intro e he
  simp only [console, List.mem_map] at he
  obtain ⟨l, -, rfl⟩ := he
  rfl

theorem filter_told_speak {level : Log.Level} (h : level ≠ .debug) (speaker : Log.Speaker)
    (message : String) :
    (speak level speaker message).filter Event.told = speak level speaker message := by
  rw [List.filter_eq_self]
  intro e he
  rw [speak, List.mem_singleton] at he
  subst he
  exact bne_iff_ne.2 h

@[simp] theorem filter_told_debug (speaker : Log.Speaker) (message : String) :
    (speak .debug speaker message).filter Event.told = [] := rfl

@[simp] theorem filter_told_strike (t : Token) (i : Item α) (m : Moment) :
    (t.strike i m).1.filter Event.told = [] := by
  rw [List.filter_eq_nil_iff]
  intro e he
  have h := t.isStop_strike i m e he
  cases e <;> simp_all [Event.told, Event.isStop]

end Trace

end Network

namespace Messaging

open Network

namespace Piece

/-- The bytes of the first control message with delivery information. -/
def carried? (p : Piece) : Option (List UInt8) :=
  (p.control.find? DeliveryInfo.isCarrier).map ControlMessage.data

def details (p : Piece) (verbose : Bool) : Trace :=
  match p.carried? with
  | none => []
  | some bs =>
    if bs.length < DeliveryInfo.size then
      Trace.speak .warning .message ("Malformed sctp_sndrcvinfo: " ++
        (Fault.shortDeliveryInfo bs.length).message)
    else if verbose then (DeliveryInfo.lines bs).map Event.line
    else []

def replyControl (p : Piece) : List ControlMessage :=
  match p.carried? with
  | none => []
  | some bs =>
    if bs.length < DeliveryInfo.size then []
    else [⟨sctp, DeliveryInfo.controlKind,
      bs.take 2 ++ List.replicate 6 0 ++ (bs.drop 8).take 4 ++ List.replicate 20 0⟩]

/-- What becomes of a piece that is to be sent back. -/
def returned (p : Piece) (id : SocketId) (failure? : Option SystemError) : Trace :=
  if p.sender.truthy then
    [.sentMessage id p.data p.replyControl 0 p.sender failure?] ++ Mailbox.noted failure?
  else Mailbox.failureNote "sender address is unknown"

/-- All that has to be told about a piece and sent back. -/
def account (p : Piece) (id : SocketId) (c : Context) (shown : String)
    (failure? : Option SystemError) : Trace :=
  if marked notification p.flags then []
  else if p.data = [] then [.line "Connection closed by remote host"]
  else
    console ("Packet from " ++ shown ++ "  with " ++ toString p.data.length ++ " bytes of data") ++
      Mailbox.cutNote c.room p.flags ++ p.details c.verbose.truthy ++
      console (HexDump.text "Received data" HexDump.usualWidth p.data) ++
      if c.echo.truthy then p.returned id failure? else []

theorem account_kept {c d : Context} (h : c.Kept d) (p : Piece) (id : SocketId) (shown : String)
    (failure? : Option SystemError) : p.account id d shown failure? =
      p.account id c shown failure? := by
  simp only [account, h.room, h.verbose, h.echo]

theorem informed_carried (p : Piece) : Mailbox.informed p.control =
    match p.carried? with
    | none => ([], none)
    | some bs =>
      match DeliveryInfo.decode bs with
      | .ok d => ([], some d)
      | .error f => (Trace.speak .warning .message ("Malformed sctp_sndrcvinfo: " ++ f.message),
          none) := by
  unfold Mailbox.informed DeliveryInfo.among carried?
  cases p.control.find? DeliveryInfo.isCarrier with
  | none => rfl
  | some c => cases hd : DeliveryInfo.decode c.data <;> simp [hd, Except.map]

theorem reply_carried (p : Piece) :
    DeliveryInfo.reply (Mailbox.informed p.control).2 = .ok p.replyControl := by
  rw [informed_carried, replyControl]
  cases p.carried? with
  | none => rfl
  | some bs =>
    by_cases h : bs.length < DeliveryInfo.size
    · simp [DeliveryInfo.decode_short h, h, DeliveryInfo.reply]
    · obtain ⟨d, hd⟩ := DeliveryInfo.decode_long h
      simp [hd, h, DeliveryInfo.reply_of_decode hd]

theorem report_carried (p : Piece) (c : Context) (shown : String) :
    Mailbox.report c p shown =
      console ("Packet from " ++ shown ++ "  with " ++ toString p.data.length ++
        " bytes of data") ++
        Mailbox.cutNote c.room p.flags ++ p.details c.verbose.truthy ++
        console (HexDump.text "Received data" HexDump.usualWidth p.data) := by
  rw [Mailbox.report, informed_carried, details]
  cases p.carried? with
  | none => simp
  | some bs =>
    by_cases h : bs.length < DeliveryInfo.size
    · simp [DeliveryInfo.decode_short h, h]
    · obtain ⟨d, hd⟩ := DeliveryInfo.decode_long h
      simp [hd, h, DeliveryInfo.console_description hd]

/-- The account of a piece with data is its report, and the reply if there has to be one. -/
theorem account_report {p : Piece} (hn : marked notification p.flags = false) (hc : p.data ≠ [])
    (id : SocketId) (c : Context) (shown : String) (failure? : Option SystemError) :
    p.account id c shown failure? =
      Mailbox.report c p shown ++ if c.echo.truthy then p.returned id failure? else [] := by
  rw [account, report_carried, hn, if_neg Bool.false_ne_true, if_neg hc]

theorem filter_told_details (p : Piece) (verbose : Bool) :
    (p.details verbose).filter Event.told = p.details verbose := by
  unfold details
  split
  · rfl
  · split
    · exact Trace.filter_told_speak (by decide) _ _
    · split
      · rw [List.filter_eq_self]
        simp [Event.told, Event.isStop]
      · rfl

end Piece

namespace Mailbox

theorem filter_told_report (c : Context) (p : Piece) (shown : String) :
    (report c p shown).filter Event.told = report c p shown := by
  have hcut : (cutNote c.room p.flags).filter Event.told = cutNote c.room p.flags := by
    unfold cutNote
    split
    · rfl
    · exact Trace.filter_told_speak (by decide) _ _
  rw [p.report_carried]
  simp only [List.filter_append, Trace.filter_told_console, hcut,
    Piece.filter_told_details]

theorem filter_told_noted (failure? : Option SystemError) :
    (noted failure?).filter Event.told = noted failure? := by
  cases failure? with
  | none => rfl
  | some e => exact Trace.filter_told_speak (by decide) _ _

theorem filter_told_echo (s : Mailbox) (item : Item Message) (p : Piece) :
    (s.echo item p (informed p.control).2).trace.filter Event.told =
      p.returned s.endpoint.id (replyFailure s.endpoint.sends) := by
  cases hs : p.sender.truthy with
  | false =>
    have hecho : (s.echo item p (informed p.control).2).trace =
        failureNote "sender address is unknown" := by
      simp [echo, hs]
    rw [hecho, Piece.returned, hs]
    exact Trace.filter_told_speak (by decide) _ _
  | true =>
    -- Somebody may ask to stop as the reply is sent, between the debug entry and the call.
    rw [s.echo_eq item hs p.reply_carried, Piece.returned, if_pos hs]
    simp only [List.filter_append, Trace.filter_told_debug, Trace.filter_told_strike,
      filter_told_noted, List.nil_append]
    rfl

/-- What handling a piece shows is its account. -/
theorem account_handle {p : Piece} {s : Mailbox} {item : Item Message}
    (hn : marked notification p.flags = false) (hc : p.data ≠ [])
    (hr : (s.handle item p).result = .ok ()) : ∃ shown, Peer.display p.sender = .ok shown ∧
      (s.handle item p).trace.filter Event.told =
        p.account s.endpoint.id s.context shown (replyFailure s.endpoint.sends) := by
  have hh := s.handling item p
  generalize s.handle item p = ran at hh hr
  cases hh with
  | unshown h => simp at hr
  | @reported shown h he =>
    refine ⟨shown, h, ?_⟩
    rw [Piece.account_report hn hc, he, List.filter_append, Trace.filter_told_debug,
      filter_told_report]
    simp
  | @echoed shown h he =>
    refine ⟨shown, h, ?_⟩
    rw [Piece.account_report hn hc, he, Ran.trace_after, List.filter_append, List.filter_append,
      Trace.filter_told_debug, filter_told_report, s.filter_told_echo item p]
    simp

theorem token_handle {item : Item Message} (hq : item.quiet = true) (s : Mailbox) (p : Piece) :
    (s.handle item p).state.token = s.token := by
  have hstrike := Token.strike_quiet hq s.token .send
  have hh := s.handling item p
  generalize s.handle item p = ran at hh ⊢
  cases hh with
  | unshown h => rfl
  | reported h he => rfl
  | echoed h he =>
    cases hs : p.sender.truthy with
    | false => simp [echo, hs]
    | true =>
      rw [Ran.state_after, s.echo_eq item hs p.reply_carried]
      exact congrArg Prod.snd hstrike

end Mailbox

end Messaging

end SctpProbe
