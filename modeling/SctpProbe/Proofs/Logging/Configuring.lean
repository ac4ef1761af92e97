import SctpProbe.Proofs.Logging.Lineage
import SctpProbe.Proofs.Logging.Writing
import SctpProbe.Proofs.Rendering
set_option autoImplicit false

/-!
Configured loggers. Whatever has been configured and logged, the logger of the server has the
handler of the latest call and the level of the latest call that did not fail, and all others are as
they were made (`Loggers.Led`). So a record that comes by the logger of the server is written once
or not at all (`Loggers.records_written_once`).
-/

namespace SctpProbe.Log

theorem Level.ofWord?_eq_some_iff {s : String} {l : Level} :
    Level.ofWord? s = some l ↔ s = l.word := by
  constructor
  · intro h
    have hword := List.find?_some h
    rw [beq_iff_eq] at hword
    exact hword.symm
  · rintro rfl
    exact l.ofWord?_word

theorem Formatter.exists_format [Machine] {colours : Bool} {r : Record} {message : String}
    (hm : (server colours).wording r = .ok message) (hb : Joins r.backtrace) (hs : Joins r.stack) :
    ∃ text, (server colours).format r = .ok text := by
  obtain ⟨text, htext⟩ := followedBy_of_joins hb message
  obtain ⟨s, hs⟩ := followedBy_of_joins hs text
  have hformat := format_server colours r
  simp only [hm, htext, hs, Except.bind, Except.map] at hformat
  exact ⟨_, hformat⟩

theorem Record.checked_ofEntry (e : Entry) : (ofEntry e).checked = .ok (ofEntry e) := by
  have hnumber : e.level.number = (e.level.number.toNat : Int) ∧
      e.level.number.toNat < Nat.pow 2 128 := by
    cases e.level <;> exact ⟨rfl, by decide⟩
  have hwritable : Text.Writable (ofEntry e).level := by
    change Text.Writable e.level.number
    rw [hnumber.1]
    exact Text.writable_of_lt hnumber.2
  have harguments : (ofEntry e).arguments.truthy = false := rfl
  rw [checked, harguments, if_neg (by simp), if_neg (not_not_intro hwritable)]

namespace Logger

theorem levelOf_of_unknown {s : String} (h : Level.ofWord? s = none) :
    levelOf (.text s) = .error (.unknownLevel (String.ofList (Text.Quoted.ofText s.toList))) := by
  simp only [levelOf, h]
  rfl

theorem levelOf_eq_ok_iff {v : Value} {l : Level} : levelOf v = .ok l ↔ v = .text l.word := by
  constructor
  · intro h
    unfold levelOf at h
    dsimp only at h
    split at h
    · next l' hl =>
      cases h
      cases v with
      | text s => rw [Level.ofWord?_eq_some_iff.1 hl]
      | _ => cases hl
    · split at h
      · cases h
      · cases hq : v.quoted <;> rw [hq] at h <;> cases h
  · rintro rfl
    simp [levelOf, Level.ofWord?_word]

end Logger

namespace Loggers

/-- Whether a logger comes by that of the server on its way up, once it has been asked for. -/
def Below (ls : Loggers) (name : String) : Prop :=
  serverName ∈ lineage (ls.ask name.toList).known name.toList

def Step.colours? : Step → Option Bool
  | .configure terminal _ asked => some (Logger.colours terminal asked)
  | .log .. => none

def Step.level? : Step → Option Level
  | .configure _ level _ => (Logger.levelOf level).toOption
  | .log .. => none

def latest {α : Type} (tells : Step → Option α) (before : Option α) (steps : List Step) :
    Option α :=
  steps.foldl (fun known s => (tells s).or known) before

/-- Loggers of which only that of the server is not as it was made: it has a handler with these
colours and this level, as far as there has been a call that says so. -/
structure Led (handlers : List Formatter) (colours? : Option Bool) (level? : Option Level)
    (ls : Loggers) : Prop where
  top : ls.top = .top handlers
  known : ls.known serverName = true
  others : ∀ name, name ≠ serverName → ls.find name = .fresh
  server : ls.server =
    ⟨colours?.toList.map .server, level?.elim 0 Level.number, level?.isNone⟩

section

variable {handlers : List Formatter} {colours? : Option Bool} {level? : Option Level} {ls : Loggers}
  {name : List Char}

@[simp] theorem find_put_self (ls : Loggers) (name : List Char) (l : Logger) :
    (ls.put name l).find name = l := by
  simp [put, find]

@[simp] theorem find_put_of_ne {other : List Char} (h : other ≠ name) (ls : Loggers) (l : Logger) :
    (ls.put name l).find other = ls.find other := by
  simp [put, find, h]

theorem find_ask (ls : Loggers) (name other : List Char) :
    (ls.ask name).find other = ls.find other := by
  unfold ask
  split
  · rfl
  · next h =>
    have hnone : ls.named name = none := by simpa [known] using h
    by_cases ho : other = name
    · subst ho
      rw [find_put_self, find, hnone]
      rfl
    · exact find_put_of_ne ho _ _

theorem top_ask (ls : Loggers) (name : List Char) : (ls.ask name).top = ls.top := by
  unfold ask
  split <;> rfl

theorem known_put (ls : Loggers) (name other : List Char) (l : Logger) :
    (ls.put name l).known other = (decide (other = name) || ls.known other) := by
  by_cases h : other = name <;> simp [known, put, h]

theorem known_ask (ls : Loggers) (name other : List Char) :
    (ls.ask name).known other = (decide (other = name) || ls.known other) := by
  unfold ask
  split
  · next h => by_cases ho : other = name <;> simp [ho, h]
  · exact known_put _ _ _ _

theorem led_initial (handlers : List Formatter) : (initial handlers).Led handlers none none where
  top := rfl
  known := by simp [known, initial]
  others name h := by simp [find, initial, h]
  server := by simp [server, find, initial, Logger.fresh]

theorem Led.ask (h : ls.Led handlers colours? level?) (name : List Char) :
    (ls.ask name).Led handlers colours? level? where
  top := (top_ask _ _).trans h.top
  known := by simp [known_ask, h.known]
  others other ho := (find_ask _ _ _).trans (h.others other ho)
  server := (find_ask _ _ _).trans h.server

theorem Led.step [Machine] (h : ls.Led handlers colours? level?) (s : Step) :
    (ls.step s).1.Led handlers (s.colours?.or colours?) (s.level?.or level?) := by
  cases s with
  | configure terminal level asked =>
    refine ⟨h.top, ?_, ?_, ?_⟩
    · simp [Loggers.step, configure, known_put]
    · intro name hn
      exact (find_put_of_ne hn _ _).trans (h.others name hn)
    · refine (find_put_self _ _ _).trans ?_
      rw [h.server]
      cases hl : Logger.levelOf level with
      | error f => simp [Logger.configure, Step.colours?, Step.level?, hl, Except.toOption]
      | ok l => simp [Logger.configure, Step.colours?, Step.level?, hl, Except.toOption]
  | log name r => exact h.ask name.toList

theorem Led.run [Machine] (h : ls.Led handlers colours? level?) (steps : List Step) :
    (ls.run steps).1.Led handlers (latest Step.colours? colours? steps)
      (latest Step.level? level? steps) := by
  induction steps generalizing ls colours? level? with
  | nil => exact h
  | cons s rest ih => exact ih (h.step s)

/-- What has become of the loggers by a sequence of steps. -/
theorem led_run [Machine] (handlers : List Formatter) (steps : List Step) :
    ((initial handlers).run steps).1.Led handlers (latest Step.colours? none steps)
      (latest Step.level? none steps) :=
  (led_initial handlers).run steps

/-- A way up that comes by the logger of the server goes on to the top from there, and nothing that
comes before decides anything. -/
theorem Led.way (h : ls.Led handlers colours? level?) (hb : serverName ∈ lineage ls.known name) :
    ∃ before, (∀ l ∈ before, l = Logger.fresh) ∧ ls.way name = before ++ [ls.server, ls.top] := by
  obtain ⟨before, hbefore, hnot⟩ := lineage_split _ hb
  refine ⟨before.map ls.find, fun l hl => ?_, ?_⟩
  · obtain ⟨n, hn, rfl⟩ := List.mem_map.1 hl
    exact h.others n fun he => hnot (he ▸ hn)
  · rw [Loggers.way, hbefore, lineage_of_no_dot (by decide), List.map_append, List.append_assoc]
    rfl

theorem Led.threshold_way (h : ls.Led handlers colours? level?)
    (hb : serverName ∈ lineage ls.known name) :
    Logger.threshold (ls.way name) = level?.elim Logger.upperLevel Level.number := by
  obtain ⟨before, hfresh, hway⟩ := h.way hb
  rw [hway, Logger.threshold_fresh hfresh, h.server, h.top]
  cases level? with
  | none => rfl
  | some l => cases l <;> rfl

theorem Led.reached_way (h : ls.Led handlers colours? level?)
    (hb : serverName ∈ lineage ls.known name) :
    Logger.reached (ls.way name) =
      colours?.toList.map .server ++ if level?.isNone then handlers else [] := by
  obtain ⟨before, hfresh, hway⟩ := h.way hb
  rw [hway, Logger.reached_fresh hfresh, h.server, h.top]
  simp [Logger.reached, Logger.top]

theorem below_of_under (hk : ls.known serverName = true) {name : String}
    (h : Under serverName name.toList) : ls.Below name := by
  have hlast : serverName.getLast? = some 'r' := rfl
  refine mem_lineage_of_under (by simp [known_ask, hk]) (by decide) (fun c hc => ?_) h
  rw [hlast] at hc
  cases hc
  decide

/-- With a handler and a level, a record is written by this handler, once, or not at all. -/
theorem Led.log [Machine] {colours : Bool} {level : Level}
    (h : ls.Led handlers (some colours) (some level)) {name : String} (hb : ls.Below name)
    (r : Record) : (ls.log name r).2 =
      if level.number ≤ r.level then
        r.checked.map fun r => ((Formatter.server colours).format r).toOption.toList
      else .ok [] := by
  have hled := h.ask name.toList
  have hthreshold := hled.threshold_way hb
  have hreached := hled.reached_way hb
  have hwritten (r : Record) : Logger.written ((ls.ask name.toList).way name.toList) r =
      ((Formatter.server colours).format r).toOption.toList := by
    rw [Logger.written, Logger.writers, hreached]
    change [((Formatter.server colours).apply r).2].filterMap Except.toOption = _
    rw [Formatter.format]
    cases ((Formatter.server colours).apply r).2 <;> rfl
  have hwritten' := funext hwritten
  simp only [Loggers.log, hthreshold, hwritten', Option.elim]

/-! Sequences of successful calls -/

def Step.setting? : Step → Option (Bool × Level)
  | .configure terminal level asked =>
    (Logger.levelOf level).toOption.map (Logger.colours terminal asked, ·)
  | .log .. => none

/-- A step that is not a failing call. -/
def Step.Succeeds : Step → Prop
  | .configure _ level _ => ∃ l : Level, level = .text l.word
  | .log .. => True

theorem latest_of_none {α : Type} {tells : Step → Option α} {steps : List Step}
    (h : ∀ s ∈ steps, tells s = none) (before : Option α) : latest tells before steps = before := by
  induction steps with
  | nil => rfl
  | cons s rest ih =>
    rw [List.forall_mem_cons] at h
    rw [latest, List.foldl_cons, h.1]
    exact ih h.2

theorem latest_map {α β : Type} {tells : Step → Option α} {other : Step → Option β} {f : α → β}
    {steps : List Step} (h : ∀ s ∈ steps, other s = (tells s).map f) (before : Option α) :
    latest other (before.map f) steps = (latest tells before steps).map f := by
  induction steps generalizing before with
  | nil => rfl
  | cons s rest ih =>
    rw [List.forall_mem_cons] at h
    have hstep : (other s).or (before.map f) = ((tells s).or before).map f := by
      rw [h.1]
      cases tells s <;> rfl
    rw [latest, latest, List.foldl_cons, List.foldl_cons, hstep]
    exact ih h.2 _

theorem latest_of_setting {steps : List Step} (h : ∀ s ∈ steps, s.Succeeds) {colours : Bool}
    {level : Level} (hs : latest Step.setting? none steps = some (colours, level)) :
    latest Step.colours? none steps = some colours ∧
      latest Step.level? none steps = some level := by
  have hcolours : ∀ s ∈ steps, s.colours? = s.setting?.map Prod.fst := by
    intro s hm
    cases s with
    | configure terminal v asked =>
      obtain ⟨l, rfl⟩ := h _ hm
      simp [Step.colours?, Step.setting?, Logger.levelOf_eq_ok_iff.2 rfl, Except.toOption]
    | log => rfl
  have hlevel : ∀ s ∈ steps, s.level? = s.setting?.map Prod.snd := by
    intro s hm
    cases s with
    | configure terminal v asked =>
      obtain ⟨l, rfl⟩ := h _ hm
      simp [Step.level?, Step.setting?, Logger.levelOf_eq_ok_iff.2 rfl, Except.toOption]
    | log => rfl
  exact ⟨(latest_map hcolours none).trans (by rw [hs]; rfl),
    (latest_map hlevel none).trans (by rw [hs]; rfl)⟩

theorem run_append [Machine] (ls : Loggers) (steps : List Step) (s : Step) (after : List Step) :
    (ls.run (steps ++ s :: after)).2[steps.length]? = some (((ls.run steps).1.step s).2) := by
  induction steps generalizing ls with
  | nil => rfl
  | cons t rest ih => exact ih (ls.step t).1

def reconfiguring : List Step := [
  .configure false (.text "debug") .nothing,
  .log "sctp_server.server" (.ofEntry (.plain .info .server "Starting server...")),
  .configure false (.text "warning") (.bool true),
  .log "sctp_server.server" (.ofEntry (.plain .info .server "Shutting down server..."))]

end

end Loggers

end SctpProbe.Log
