import SctpProbe.Proofs.Logging.Configuring
set_option autoImplicit false

namespace SctpProbe.Log

theorem Formatter.timed_server (colours : Bool) : (server colours).timed = false := by
  cases colours <;> decide

/-- The notes of a formatter without the time are made anew by the next one. -/
theorem Formatter.apply_apply [Machine] {f : Formatter} (h : f.timed = false) (g : Formatter)
    {r : Record} {message : String} (hm : r.message = .ok message) : g.apply (f.apply r).1 = g.apply r := by
  have hleft : (f.apply r).1 = { r with message? := some message } := by
    simp only [apply, noted, hm, h]
    rfl
  have hagain : ({ r with message? := some message } : Record).message = .ok message := hm
  have hnoted : g.noted { r with message? := some message } = g.noted r := by
    simp only [noted, hagain, hm]
  rw [hleft, apply, hnoted, apply]
  simp only [noted, hm]
  rfl

namespace Loggers

def rehandled (ls : Loggers) (handlers : List Formatter) : Loggers :=
  ls.put serverName { ls.server with handlers := handlers }

section

variable {handlers : List Formatter} {colours? : Option Bool} {level? : Option Level} {ls : Loggers}
  {name : List Char}

theorem put_find (hk : ls.known name = true) : ls.put name (ls.find name) = ls := by
  obtain ⟨l, hl⟩ := Option.isSome_iff_exists.1 hk
  cases ls with
  | mk top named =>
    simp only [put, find, Loggers.mk.injEq, true_and]
    funext other
    split
    · next ho =>
      change named name = some l at hl
      rw [ho, hl]
      rfl
    · rfl

theorem configure_of_unknown (ls : Loggers) (terminal : Bool) {s : String}
    (hs : Level.ofWord? s = none) (asked : Value) :
    ls.configure terminal (.text s) asked =
      (ls.rehandled [.server (Logger.colours terminal asked)],
        .error (.unknownLevel (String.ofList (Text.Quoted.ofText s.toList)))) := by
  simp only [configure, Logger.configure, Logger.levelOf_of_unknown hs]
  rfl

/-- A call does not look at the handlers that there are. -/
theorem configure_rehandled (ls : Loggers) (fs : List Formatter) (terminal : Bool)
    (level asked : Value) :
    (ls.rehandled fs).configure terminal level asked = ls.configure terminal level asked := by
  have hserver : (ls.rehandled fs).server = { ls.server with handlers := fs } := find_put_self _ _ _
  have hput (l : Logger) : (ls.rehandled fs).put serverName l = ls.put serverName l := by
    simp only [rehandled, put, Loggers.mk.injEq, true_and]
    funext other
    split <;> rfl
  simp only [configure, hserver, hput, Logger.configure]

theorem known_rehandled (hk : ls.known serverName = true) (fs : List Formatter) :
    (ls.rehandled fs).known = ls.known := by
  funext other
  rw [rehandled, known_put]
  by_cases ho : other = serverName <;> simp [ho, hk]

theorem ask_rehandled (hk : ls.known serverName = true) (fs : List Formatter) (name : List Char) :
    (ls.rehandled fs).ask name = (ls.ask name).rehandled fs := by
  by_cases hn : ls.known name = true
  · rw [ask, known_rehandled hk, if_pos hn, ask, if_pos hn]
  · have hother : serverName ≠ name := fun he => hn (he ▸ hk)
    have hserver : (ls.put name .fresh).server = ls.server := find_put_of_ne hother _ _
    rw [ask, known_rehandled hk, if_neg hn, ask, if_neg hn, rehandled, rehandled, hserver]
    simp only [put, Loggers.mk.injEq, true_and]
    funext other
    by_cases ho : other = serverName
    · rw [if_neg (ho ▸ hother), if_pos ho, if_pos ho]
    · rw [if_neg ho, if_neg ho]

theorem run_rehandled [Machine] (h : ls.Led handlers colours? level?) (fs : List Formatter)
    {later : List Step} (hl : ∀ s ∈ later, s.colours? = none) :
    ((ls.rehandled fs).run later).1 = (ls.run later).1.rehandled fs := by
  induction later generalizing ls colours? level? with
  | nil => rfl
  | cons s rest ih =>
    rw [List.forall_mem_cons] at hl
    cases s with
    | configure => cases hl.1
    | log name r =>
      change (((ls.rehandled fs).ask name.toList).run rest).1 = _
      rw [ask_rehandled h.known]
      exact ih (h.ask name.toList) hl.2

/-- Loggers that differ from these in that records which come by the logger of the server are
written by one list of handlers instead of another. They make the same records. -/
structure Rewritten (old new : List Formatter) (ls other : Loggers) : Prop where
  threshold : ∀ name, Logger.threshold (other.way name) = Logger.threshold (ls.way name)
  below : ∀ name, serverName ∈ lineage ls.known name → ∃ upper,
    Logger.reached (ls.way name) = old ++ upper ∧ Logger.reached (other.way name) = new ++ upper
  beside : ∀ name, serverName ∉ lineage ls.known name → other.way name = ls.way name

theorem Led.rehandled (h : ls.Led handlers colours? level?) (colours : Bool) :
    (ls.rehandled [.server colours]).Led handlers (some colours) level? where
  top := h.top
  known := by simp [known_rehandled h.known, h.known]
  others name hn := (find_put_of_ne hn _ _).trans (h.others name hn)
  server := by
    refine (find_put_self _ _ _).trans ?_
    rw [h.server]
    rfl

theorem Led.rewritten (h : ls.Led handlers colours? level?) (colours : Bool) :
    Rewritten (colours?.toList.map .server) [.server colours] ls
      (ls.rehandled [.server colours]) := by
  have hled := h.rehandled colours
  have hknown := known_rehandled h.known [.server colours]
  have hbeside (name : List Char) (hn : serverName ∉ lineage ls.known name) :
      (ls.rehandled [.server colours]).way name = ls.way name := by
    rw [Loggers.way, Loggers.way, hknown]
    refine congrArg (· ++ [ls.top]) (List.map_congr_left fun n hm => find_put_of_ne ?_ _ _)
    rintro rfl
    exact hn hm
  refine ⟨fun name => ?_, fun name hn => ?_, hbeside⟩
  · by_cases hn : serverName ∈ lineage ls.known name
    · rw [h.threshold_way hn, hled.threshold_way (hknown ▸ hn)]
    · rw [hbeside name hn]
  · exact ⟨_, h.reached_way hn, hled.reached_way (hknown ▸ hn)⟩

def alarm : Record := .ofEntry (.plain .critical .server "Out of order")

theorem format_alarm [Machine] (colours : Bool) : (Formatter.server colours).format alarm =
    .ok (Formatter.levelMark colours Level.critical.number ++ " Out of order") := by
  rw [Formatter.format_of_not_styled rfl colours]
  change Except.ok (Formatter.levelMark colours alarm.level ++ " " ++ "Out of order") = _
  rw [String.append_assoc]
  rfl

theorem Led.log_alarm [Machine] (h : ls.Led handlers colours? level?) : ∃ way,
    (ls.log rootName alarm).2 = .ok (Logger.written way alarm) ∧
      Logger.reached way =
        colours?.toList.map .server ++ if level?.isNone then handlers else [] := by
  have hled := h.ask serverName
  have hb : serverName ∈ lineage (ls.ask serverName).known serverName := by
    rw [lineage_eq]
    exact List.mem_cons_self
  refine ⟨(ls.ask serverName).way serverName, ?_, hled.reached_way hb⟩
  have hthreshold : Logger.threshold ((ls.ask serverName).way serverName) ≤ alarm.level := by
    rw [hled.threshold_way hb]
    cases level? with
    | none => decide
    | some l => cases l <;> decide
  change (if Logger.threshold ((ls.ask serverName).way serverName) ≤ alarm.level then _ else _) = _
  rw [if_pos hthreshold, alarm, Record.checked_ofEntry]
  rfl

theorem written_alarm [Machine] {way : List Logger} {colours : Bool} {upper : List Formatter}
    (h : Logger.reached way = .server colours :: upper) : Logger.written way alarm =
      (Formatter.levelMark colours Level.critical.number ++ " Out of order") ::
        (Formatter.outputs upper alarm).filterMap Except.toOption := by
  have hhead : ((Formatter.server colours).apply alarm).2 = _ := format_alarm colours
  have htail : Formatter.outputs upper ((Formatter.server colours).apply alarm).1 =
      Formatter.outputs upper alarm := by
    cases upper with
    | nil => rfl
    | cons g rest =>
      rw [Formatter.outputs, Formatter.outputs,
        Formatter.apply_apply (Formatter.timed_server colours) g (r := alarm) rfl]
  rw [Logger.written, Logger.writers, h]
  change (Formatter.outputs (.server colours :: upper) alarm).filterMap _ = _
  rw [Formatter.outputs, htail, hhead]
  rfl

theorem Led.rehandled_eq {colours : Bool} (h : ls.Led handlers (some colours) level?) :
    ls.rehandled [.server colours] = ls := by
  have hserver : { ls.server with handlers := [.server colours] } = ls.server := by
    rw [h.server]
    rfl
  rw [Loggers.rehandled, hserver]
  exact put_find h.known

/-- Other handlers show, at the latest when this record is logged. -/
theorem Led.colours_of_alarm [Machine] (h : ls.Led handlers colours? level?) {colours : Bool}
    (he : ((ls.rehandled [.server colours]).log rootName alarm).2 = (ls.log rootName alarm).2) :
    colours? = some colours := by
  obtain ⟨way, hlog, hreached⟩ := h.log_alarm
  obtain ⟨way', hlog', hreached'⟩ := (h.rehandled colours).log_alarm
  generalize (if level?.isNone then handlers else []) = upper at hreached hreached'
  have hnew : Logger.reached way' = .server colours :: upper := hreached'
  rw [hlog, hlog', Except.ok.injEq, written_alarm hnew] at he
  cases colours? with
  | some c =>
    have hold : Logger.reached way = .server c :: upper := hreached
    rw [written_alarm hold, List.cons.injEq] at he
    match c, colours, he with
    | true, true, _ | false, false, _ => rfl
    | true, false, he | false, true, he => exact absurd he.1 (by decide)
  | none =>
    -- Without a call so far the failing one has put a handler before those at the top.
    have hold : Logger.reached way = upper := hreached
    cases upper with
    | nil =>
      have hwritten : Logger.written way alarm = ["Out of order"] := by
        rw [Logger.written, Logger.writers, hold]
        have hplain : (Logger.lastResort.apply alarm).2 = _ := Formatter.format_plainLayout alarm
        change [(Logger.lastResort.apply alarm).2].filterMap _ = _
        rw [hplain]
        rfl
      rw [hwritten, List.cons.injEq] at he
      cases colours <;> exact absurd he.1 (by decide)
    | cons f fs =>
      rw [Logger.written, Logger.writers, hold] at he
      exact absurd (congrArg List.length he) (by simp)

/-- A call with an unknown level is refused, but not before it has replaced the handler of the
server's logger. Until the next call all records are made that would have been made without it, and
those that come by this logger are written by the new handler. So nothing shows just in case the
handler had these colours before. -/
theorem handler_replaced [Machine] (handlers : List Formatter) (steps : List Step) (terminal : Bool)
    {s : String} (hs : Level.ofWord? s = none) (asked : Value) :
    let ls := ((initial handlers).run steps).1
    let colours := Logger.colours terminal asked
    let former := latest Step.colours? none steps
    let after := ls.rehandled [.server colours]
    let unknown := Fault.unknownLevel (String.ofList (Text.Quoted.ofText s.toList))
    (ls.configure terminal (.text s) asked = (after, .error unknown) ∧
      unknown.family = .missingKey) ∧
    (∀ later, (∀ s ∈ later, s.colours? = none) →
      Rewritten (former.toList.map .server) [.server colours] (ls.run later).1
        (after.run later).1) ∧
    (∀ terminal level asked, after.configure terminal level asked =
      ls.configure terminal level asked) ∧
    ((∀ later, (after.run later).2 = (ls.run later).2) ↔ former = some colours) := by
  intro ls colours former after unknown
  have hled : ls.Led handlers former (latest Step.level? none steps) := led_run handlers steps
  refine ⟨⟨configure_of_unknown ls terminal hs asked, rfl⟩, fun later hl => ?_,
    configure_rehandled ls _, fun h => ?_, fun h => ?_⟩
  · have hlater := hled.run later
    have hsame : latest Step.colours? former later = former := latest_of_none hl former
    rw [run_rehandled hled _ hl]
    rw [hsame] at hlater
    exact hlater.rewritten colours
  · have hlog := h [.log rootName alarm]
    exact hled.colours_of_alarm (by simpa [Loggers.run, Loggers.step] using hlog)
  · have hafter : after = ls := (h ▸ hled : ls.Led handlers (some colours) _).rehandled_eq
    exact fun later => by rw [hafter]

theorem handler_replaced_loud :
    let ls := ((initial []).run [.configure false (.text "info") .nothing]).1
    let call := ls.configure false (.text "loud") (.bool true)
    call.2 = .error (.unknownLevel (String.ofList (Text.Quoted.ofText "loud".toList))) ∧
      ¬ ∀ later, (call.1.run later).2 = (ls.run later).2 := by
  obtain ⟨⟨hcall, -⟩, -, -, hiff⟩ := handler_replaced [] [.configure false (.text "info") .nothing]
    false (s := "loud") (by decide) (.bool true)
  intro ls call
  refine ⟨congrArg Prod.snd hcall, fun h => ?_⟩
  rw [show call.1 = _ from congrArg Prod.fst hcall] at h
  exact absurd (hiff.1 h) (by decide)

/-- A call that fails changes the logger of the server, and the next record shows it. -/
theorem recoloured_of_unknown :
    (¬ ∀ handlers steps terminal s asked, Level.ofWord? s = none →
      let ls := ((initial handlers).run steps).1
      (ls.configure terminal (.text s) asked).1.server = ls.server) ∧
    ¬ ∀ handlers steps terminal s asked, Level.ofWord? s = none →
      let ls := ((initial handlers).run steps).1
      ∀ name r, ((ls.configure terminal (.text s) asked).1.log name r).2 = (ls.log name r).2 := by
  let steps : List Step := [.configure false (.text "info") .nothing]
  constructor
  · intro h
    exact absurd (h [] steps false "loud" (.bool true) (by decide)) (by decide)
  · intro h
    have hlog := h [] steps false "loud" (.bool true) (by decide) rootName alarm
    simp only [configure_of_unknown _ false (s := "loud") (by decide) (.bool true)] at hlog
    exact absurd ((led_run [] steps).colours_of_alarm hlog) (by decide)

end

end Loggers

end SctpProbe.Log
