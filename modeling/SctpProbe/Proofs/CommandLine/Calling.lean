import SctpProbe.CommandLine.Run
import SctpProbe.Proofs.CommandLine.Spelling
import SctpProbe.Proofs.Logging.Configuring
import SctpProbe.Proofs.Settings
set_option autoImplicit false

/-!
What a command line comes to. An argument list that spells options with values that they may have
(`Proper`), and no other arguments, makes a server with the configuration that the options ask for
(`Asks`); whatever passes as a value of an option also passes the check of the setting that it
becomes (`passes_call`). The other lists end before anything is configured: with the help, with the
version, or as wrong usage (`arguments_settled`).
-/

namespace SctpProbe.CommandLine

def Last (options : List Given) (k : Key) (value : String) : Prop :=
  ∃ before after, options = before ++ ⟨k, value⟩ :: after ∧ ∀ g ∈ after, g.key ≠ k

def Occurs (options : List Given) (k : Key) : Prop := ∃ g ∈ options, g.key = k

instance (options : List Given) (k : Key) : Decidable (Occurs options k) :=
  inferInstanceAs (Decidable (∃ g ∈ options, g.key = k))

def Within (low high : Int) (text : String) (n : Int) : Prop :=
  Text.readInt? text.toList = some n ∧ low ≤ n ∧ n ≤ high

/-- The values that an option may have. -/
def Key.Takes (k : Key) (value : String) : Prop :=
  match k with
  | .port => ∃ n, Within 0 65535 value n
  | .buffer => ∃ n, Within 1 65535 value n
  | .logLevel => ∃ l : Log.Level, value = l.word
  | _ => True

/-- What the last value of an option says, or what is usual without the option. -/
def Chosen {α : Type} (options : List Given) (k : Key) (reads : String → α → Prop) (usual x : α) :
    Prop :=
  (∃ v, Last options k v ∧ reads v x) ∨ (¬ Occurs options k ∧ x = usual)

def Key.Eager (k : Key) : Prop := k = .version ∨ k = .help

/-- Options that a server can be made from. -/
structure Proper (options : List Given) : Prop where
  lazy (g : Given) : g ∈ options → ¬ g.key.Eager
  values (k : Key) (v : String) : Last options k v → k.Takes v

/-- The configuration and the level that options ask for. -/
structure Asks (options : List Given) (config : Config) (level : Log.Level) : Prop where
  host : ∃ s, Chosen options .host Eq "::" s ∧ config.host = .text s
  port : ∃ n, Chosen options .port (Within 0 65535) 2001 n ∧ config.port = .int n
  bufferSize : ∃ n, Chosen options .buffer (Within 1 65535) 1024 n ∧ config.bufferSize = .int n
  mode : config.mode = if Occurs options .sequenced then .message else .stream
  echo : config.echo = .bool (decide (Occurs options .echo))
  verbose : config.verbose = .bool (decide (Occurs options .verbose))
  level : Chosen options .logLevel (fun v l => v = l.word)
    (if Occurs options .verbose then .debug else .info) level
  backlog : config.backlog = Settings.usual.backlog
  pollTimeout : config.pollTimeout.toValue = Settings.usual.pollTimeout
  sendTimeout : config.sendTimeout = Settings.usual.sendTimeout

def serving (config : Config) (level : Log.Level) (socket : ServerSocket) : Ran Server Ending :=
  (Server.new config).run ⟨true, true, level.number, false⟩ socket

section

variable {options : List Given} {k : Key}

theorem last?_eq_some_iff {p : Parsed} {v : String} :
    p.last? k = some v ↔ Last p.options k v := by
  rw [Parsed.last?, Option.map_eq_some_iff]
  constructor
  · rintro ⟨g, hg, rfl⟩
    obtain ⟨hkey, before, after, hsplit, hbefore⟩ := List.find?_eq_some_iff_append.1 hg
    obtain rfl := beq_iff_eq.1 hkey
    -- The options are searched from behind, so what was passed over comes after.
    refine ⟨after.reverse, before.reverse, ?_, fun h hh => ?_⟩
    · rw [← List.reverse_reverse p.options, hsplit]
      simp
    · simpa using hbefore h (List.mem_reverse.1 hh)
  · rintro ⟨before, after, hsplit, hafter⟩
    have hreverse : p.options.reverse = after.reverse ++ ⟨k, v⟩ :: before.reverse := by
      rw [hsplit]
      simp
    refine ⟨⟨k, v⟩, List.find?_eq_some_iff_append.2 ⟨by simp, _, _, hreverse, ?_⟩, rfl⟩
    intro g hg
    simpa using hafter g (List.mem_reverse.1 hg)

theorem last?_eq_none_iff {p : Parsed} : p.last? k = none ↔ ¬ Occurs p.options k := by
  simp [Parsed.last?, Occurs]

theorem occurs_of_last {v : String} (h : Last options k v) : Occurs options k := by
  obtain ⟨before, after, rfl, -⟩ := h
  exact ⟨⟨k, v⟩, by simp, rfl⟩

theorem number_eq_ok_iff {text : String} {n : Int} :
    number k text = .ok n ↔ Within k.range.1 k.range.2 text n := by
  unfold number Within
  cases Text.readInt? text.toList with
  | none => simp
  | some m =>
    by_cases hm : k.range.1 ≤ m ∧ m ≤ k.range.2
    · simp only [if_pos hm, Except.ok.injEq, Option.some.injEq]
      constructor
      · rintro rfl
        exact ⟨rfl, hm⟩
      · exact fun h => h.1
    · simp only [if_neg hm, Option.some.injEq]
      exact iff_of_false nofun fun h => hm (h.1 ▸ h.2)

theorem exists_number_iff {v : String} :
    (number k v).map (fun _ => ()) = .ok () ↔ ∃ n, Within k.range.1 k.range.2 v n := by
  simp only [← number_eq_ok_iff]
  cases number k v <;> simp [Except.map]

theorem check_eq_ok_iff {v : String} : check k v = .ok () ↔ k.Takes v := by
  cases k with
  | port => exact exists_number_iff
  | buffer => exact exists_number_iff
  | logLevel =>
    simp only [check, Key.Takes, ← Log.Level.ofWord?_eq_some_iff]
    cases Log.Level.ofWord? v <;> simp
  | _ => exact iff_of_true rfl trivial

theorem checkAll_eq_ok_iff {p : Parsed} :
    ∀ ks : List Key, checkAll p ks = .ok () ↔ ∀ k ∈ ks, check k ((p.last? k).getD "") = .ok ()
  | [] => by simp [checkAll]
  | k :: ks => by
    rw [checkAll, List.forall_mem_cons, ← checkAll_eq_ok_iff ks]
    cases check k ((p.last? k).getD "") with
    | ok u => exact (and_iff_right rfl).symm
    | error e => exact iff_of_false nofun fun h => nomatch h.1

theorem mem_keys {p : Parsed} : k ∈ p.keys ↔ Occurs p.options k := by
  simp [Parsed.keys, Occurs]

theorem checkAll_keys {p : Parsed} :
    checkAll p p.keys = .ok () ↔ ∀ k v, Last p.options k v → k.Takes v := by
  simp only [checkAll_eq_ok_iff, check_eq_ok_iff, mem_keys]
  constructor
  · intro h k v hv
    simpa [last?_eq_some_iff.2 hv] using h k (occurs_of_last hv)
  · intro h k hk
    cases hlast : p.last? k with
    | none => exact absurd hk (last?_eq_none_iff.1 hlast)
    | some v => exact h k v (last?_eq_some_iff.1 hlast)

theorem chosen {α : Type} {p : Parsed} {reads : String → α → Prop} (usual : α)
    (h : ∀ v, Last p.options k v → ∃ x, reads v x) :
    ∃ x, Chosen p.options k reads usual x := by
  cases hlast : p.last? k with
  | none => exact ⟨usual, .inr ⟨last?_eq_none_iff.1 hlast, rfl⟩⟩
  | some v =>
    have hv := last?_eq_some_iff.1 hlast
    obtain ⟨x, hx⟩ := h v hv
    exact ⟨x, .inl ⟨v, hv, hx⟩⟩

def Key.answer? : Key → Option Request
  | .version => some .version
  | .help => some .help
  | _ => none

theorem Key.answer?_eq_none_iff : k.answer? = none ↔ ¬ k.Eager := by
  cases k <;> simp [answer?, Eager]

theorem eager?_eq (p : Parsed) : p.eager? = p.options.findSome? fun g => g.key.answer? :=
  rfl

theorem eager?_eq_none_iff {p : Parsed} : p.eager? = none ↔ ∀ g ∈ p.options, ¬ g.key.Eager := by
  simp only [eager?_eq, List.findSome?_eq_none_iff, Key.answer?_eq_none_iff]

theorem eager?_append {p : Parsed} {before after : List Given} {g : Given} {r : Request}
    (hp : p.options = before ++ g :: after) (hb : ∀ h ∈ before, ¬ h.key.Eager)
    (hr : g.key.answer? = some r) : p.eager? = some r := by
  have hnone : before.findSome? (fun h => h.key.answer?) = none :=
    List.findSome?_eq_none_iff.2 fun h hh => Key.answer?_eq_none_iff.2 (hb h hh)
  rw [eager?_eq, hp, List.findSome?_append, hnone, Option.none_or, List.findSome?_cons, hr]

/-- Without an option that is answered at once, a call is made of proper options and nothing else,
or the usage is wrong. -/
theorem interpret_of_lazy {p : Parsed} (hp : ∀ g ∈ p.options, ¬ g.key.Eager) :
    (Proper p.options ∧ p.arguments = [] ∧ interpret p = .ok (.serve p.call)) ∨
    (¬ (Proper p.options ∧ p.arguments = []) ∧ ∃ e, interpret p = .error e) := by
  unfold interpret
  rw [eager?_eq_none_iff.2 hp]
  cases hcheck : checkAll p p.keys with
  | error e =>
    refine .inr ⟨fun h => ?_, e, rfl⟩
    cases hcheck.symm.trans (checkAll_keys.2 h.1.values)
  | ok u =>
    have hproper : Proper p.options := ⟨hp, checkAll_keys.1 hcheck⟩
    match ha : p.arguments with
    | [] => exact .inl ⟨hproper, rfl, rfl⟩
    | a :: as => exact .inr ⟨fun h => (List.cons_ne_nil a as h.2), _, rfl⟩

theorem has_eq (p : Parsed) (k : Key) : p.has k = decide (Occurs p.options k) := by
  rw [Bool.eq_iff_iff, decide_eq_true_iff]
  simp [Parsed.has, Occurs]

theorem numberOr_eq {p : Parsed} {usual n : Int}
    (h : Chosen p.options k (Within k.range.1 k.range.2) usual n) :
    p.numberOr k (.int usual) = .int n := by
  rcases h with ⟨v, hv, hn⟩ | ⟨hk, rfl⟩
  · simp [Parsed.numberOr, last?_eq_some_iff.2 hv, number_eq_ok_iff.2 hn]
  · simp [Parsed.numberOr, last?_eq_none_iff.2 hk]

theorem host_call {p : Parsed} {s : String} (h : Chosen p.options .host Eq "::" s) :
    p.call.host = .text s := by
  rcases h with ⟨v, hv, rfl⟩ | ⟨hk, rfl⟩
  · simp [Parsed.call, last?_eq_some_iff.2 hv]
  · simp only [Parsed.call, last?_eq_none_iff.2 hk]
    rfl

theorem chosenLevel_call {p : Parsed} {level : Log.Level}
    (h : Chosen p.options .logLevel (fun v l => v = l.word)
      (if Occurs p.options .verbose then .debug else .info) level) :
    p.call.chosenLevel = .text level.word := by
  rcases h with ⟨v, hv, rfl⟩ | ⟨hk, rfl⟩
  · simp [Parsed.call, Call.chosenLevel, last?_eq_some_iff.2 hv]
  · by_cases hverbose : Occurs p.options .verbose
    · simp [Parsed.call, Call.chosenLevel, last?_eq_none_iff.2 hk, has_eq, hverbose, Value.truthy]
    · simp [Parsed.call, Call.chosenLevel, last?_eq_none_iff.2 hk, has_eq, hverbose, Value.truthy]

theorem ne_nan_tenth : Settings.tenth ≠ .nan := by
  decide +kernel

theorem passes_usual_pollTimeout : Checked.Passes Settings.usual.pollTimeout .pollTimeout :=
  (Checked.passes_pollTimeout (n := .float Settings.tenth)
    fun h => ne_nan_tenth (Number.float.inj h)).1 Config.usual.pollTimeout_not_atMost

theorem bounds_of_chosen {low high usual n : Int} (h : Chosen options k (Within low high) usual n)
    (hu : low ≤ usual ∧ usual ≤ high) : low ≤ n ∧ n ≤ high := by
  rcases h with ⟨v, -, hn⟩ | ⟨-, rfl⟩
  · exact hn.2
  · exact hu

/-- The settings of a call pass all checks. -/
theorem passes_call {p : Parsed} {port size : Int}
    (hport : Chosen p.options .port (Within 0 65535) 2001 port)
    (hsize : Chosen p.options .buffer (Within 1 65535) 1024 size) (k : Checked) :
    k.Passes (k.value p.call.settings) := by
  cases k with
  | port =>
    obtain ⟨hlow, hhigh⟩ := bounds_of_chosen hport (by decide)
    have hvalue : p.call.settings.port = .int port := numberOr_eq hport
    rw [Checked.value, hvalue]
    exact ⟨port, ⟨by exact_mod_cast hlow, by exact_mod_cast hhigh⟩, rfl⟩
  | bufferSize =>
    obtain ⟨hlow, hhigh⟩ := bounds_of_chosen hsize (by decide)
    have hvalue : p.call.settings.bufferSize = .int size := numberOr_eq hsize
    rw [Checked.value, hvalue]
    exact ⟨size, ⟨by exact_mod_cast hlow, by exact_mod_cast hhigh⟩, rfl⟩
  | mode =>
    simp only [Checked.value, Call.settings]
    split
    · exact .inr rfl
    · exact .inl rfl
  | pollTimeout => exact passes_usual_pollTimeout

theorem mode_of_name {m m' : Mode} (h : m.name = m'.name) : m = m' := by
  have hm := m.ofName?_name
  rw [h, m'.ofName?_name] at hm
  exact (Option.some.inj hm).symm

theorem mode_call (p : Parsed) :
    p.call.settings.mode =
      .text (if Occurs p.options .sequenced then Mode.message else .stream).name := by
  have hsequenced : p.call.sequenced.truthy = decide (Occurs p.options .sequenced) := has_eq p _
  simp only [Call.settings, hsequenced, decide_eq_true_iff]
  split <;> rfl

theorem number_of_toValue {n : Number} {k : Int} (h : n.toValue = .int k) : n = .int k := by
  match n, h with
  | .int _, rfl => rfl

theorem Proper.asks {p : Parsed} (h : Proper p.options) :
    ∃ config level, Asks p.options config level ∧ Config.ofSettings p.call.settings = .ok config ∧
      p.call.chosenLevel = .text level.word := by
  obtain ⟨host, hhost⟩ := chosen "::" fun v (_ : Last p.options .host v) => ⟨v, rfl⟩
  obtain ⟨port, hport⟩ := chosen 2001 fun v hv => h.values .port v hv
  obtain ⟨size, hsize⟩ := chosen 1024 fun v hv => h.values .buffer v hv
  obtain ⟨level, hlevel⟩ := chosen (if Occurs p.options .verbose then .debug else .info)
    fun v hv => h.values .logLevel v hv
  -- The bounds of the options are those of the checks, so no check fails here.
  obtain ⟨config, hconfig⟩ := Config.exists_of_passes (passes_call hport hsize)
  have hgiven := Config.given_of_ofSettings hconfig
  refine ⟨config, level, ?_, hconfig, chosenLevel_call hlevel⟩
  exact {
    host := ⟨host, hhost, (congrArg Settings.host hgiven).trans (host_call hhost)⟩
    port := ⟨port, hport,
      number_of_toValue ((congrArg Settings.port hgiven).trans (numberOr_eq hport))⟩
    bufferSize := ⟨size, hsize,
      number_of_toValue ((congrArg Settings.bufferSize hgiven).trans (numberOr_eq hsize))⟩
    mode := mode_of_name (Value.text.inj ((congrArg Settings.mode hgiven).trans (mode_call p)))
    echo := (congrArg Settings.echo hgiven).trans (congrArg Value.bool (has_eq p .echo))
    verbose := (congrArg Settings.verbose hgiven).trans (congrArg Value.bool (has_eq p .verbose))
    level := hlevel
    backlog := congrArg Settings.backlog hgiven
    pollTimeout := congrArg Settings.pollTimeout hgiven
    sendTimeout := congrArg Settings.sendTimeout hgiven }

theorem Call.run_eq [Machine] {c : Call} {config : Config} {level : Log.Level}
    (hl : c.chosenLevel = .text level.word) (hc : Config.ofSettings c.settings = .ok config)
    (socket : ServerSocket) :
    ∃ loggers : Log.Loggers, loggers.Led [] (some false) (some level) ∧
      c.run socket = ⟨transcribe loggers (serving config level socket).trace,
        exitOf (serving config level socket).result, some (config, level)⟩ := by
  have hlevel := Log.Logger.levelOf_eq_ok_iff.2 hl
  have hled := (Log.Loggers.led_initial []).step (.configure false c.chosenLevel .nothing)
  refine ⟨((Log.Loggers.initial []).configure false c.chosenLevel .nothing).1, ?_, ?_⟩
  · rw [Log.Loggers.Step.level?, hlevel] at hled
    exact hled
  · have hok : ((Log.Loggers.initial []).configure false c.chosenLevel .nothing).2 = .ok () := by
      simp only [Log.Loggers.configure, Log.Logger.configure, hlevel]
    simp only [Call.run, hok, hlevel, hc, serving]

end

theorem exit_of_ended {r : Except Fault Ending} {n : Int}
    (h : r = .ok (.status n) ∨ r = .ok (.exit n)) : quieten (exitOf r) = .status n := by
  rcases h with rfl | rfl <;> rfl

section

variable {args : List String}

theorem read_of_spelled {p : Parsed} (h : Spelled args p.options p.arguments) :
    read args = interpret p := by
  rw [read, parse_eq_ok_iff.2 h]
  rfl

theorem read_of_proper {options : List Given} (hs : Spelled args options [])
    (hp : Proper options) : read args = .ok (.serve (Parsed.call ⟨options, []⟩)) := by
  rw [read_of_spelled (p := ⟨options, []⟩) hs]
  rcases interpret_of_lazy (p := ⟨options, []⟩) hp.lazy with ⟨-, -, hcall⟩ | ⟨hrefused, -⟩
  · exact hcall
  · exact absurd ⟨hp, rfl⟩ hrefused

theorem read_of_answer {before after : List Given} {g : Given} {arguments : List String}
    {r : Request} (hs : Spelled args (before ++ g :: after) arguments)
    (hb : ∀ h ∈ before, ¬ h.key.Eager) (hr : g.key.answer? = some r) : read args = .ok r := by
  rw [read_of_spelled (p := ⟨before ++ g :: after, arguments⟩) hs, interpret,
    eager?_append rfl hb hr]

/-- What neither makes a call nor is answered at once is wrong usage. -/
theorem exists_usageError (hnot : ∀ options, Spelled args options [] → ¬ Proper options)
    (hlazy : ∀ options arguments, Spelled args options arguments →
      ∀ g ∈ options, ¬ g.key.Eager) : ∃ e, read args = .error e := by
  cases hparse : parse args with
  | error e => exact ⟨e, by rw [read, hparse]; rfl⟩
  | ok p =>
    have hs := parse_eq_ok_iff.1 hparse
    rw [read_of_spelled hs]
    rcases interpret_of_lazy (hlazy _ _ hs) with ⟨hproper, hnil, -⟩ | ⟨-, he⟩
    · exact absurd hproper (hnot _ (hnil ▸ hs))
    · exact he

end

/-- An argument list ends in one of three ways, whatever happens on the socket. If it spells proper
options and nothing else, a server runs with what they ask for, as no check of the settings fails
that these options have passed; the logger of the server, and no other, has been given a handler and
the level that they ask for, and the status of the server is that of the program. If it spells an
option that is answered at once, the first one is. Otherwise the usage is wrong. Only in the first
case is anything configured. -/
theorem arguments_settled [Machine] (args : List String) (socket : ServerSocket) :
    (∀ options, Spelled args options [] → Proper options →
      ∃ (config : Config) (level : Log.Level) (loggers : Log.Loggers) (ending : Exit),
        Asks options config level ∧
        loggers.Led [] (some false) (some level) ∧
        run args socket = ⟨transcribe loggers (serving config level socket).trace, ending,
          some (config, level)⟩ ∧
        ∀ n, (serving config level socket).result = .ok (.status n) ∨
          (serving config level socket).result = .ok (.exit n) → ending = .status n) ∧
    (∀ before g after arguments, Spelled args (before ++ g :: after) arguments →
      (∀ h ∈ before, ¬ h.key.Eager) →
      (g.key = .version → run args socket = ⟨[.out versionText], .status 0, none⟩) ∧
      (g.key = .help → run args socket = ⟨helpText.map .out, .status 0, none⟩)) ∧
    ((∀ options, Spelled args options [] → ¬ Proper options) →
      (∀ options arguments, Spelled args options arguments → ∀ g ∈ options, ¬ g.key.Eager) →
      ∃ e : UsageError, run args socket = ⟨complaint e.lines, .status 2, none⟩) := by
  refine ⟨fun options hs hp => ?_,
    fun before g after arguments hs hb => ⟨fun hg => ?_, fun hg => ?_⟩, fun hnot hlazy => ?_⟩
  · obtain ⟨config, level, hasks, hconfig, hlevel⟩ := Proper.asks (p := ⟨options, []⟩) hp
    obtain ⟨loggers, hled, hrun⟩ := Call.run_eq hlevel hconfig socket
    refine ⟨config, level, loggers, _, hasks, hled, ?_, fun n => exit_of_ended⟩
    rw [run, read_of_proper hs hp]
    simp only [hrun]
  · rw [run, read_of_answer hs hb (congrArg Key.answer? hg)]
  · rw [run, read_of_answer hs hb (congrArg Key.answer? hg)]
  · obtain ⟨e, he⟩ := exists_usageError hnot hlazy
    exact ⟨e, by rw [run, he]⟩

def joined : Parsed := ⟨[⟨.echo, ""⟩, ⟨.sequenced, ""⟩, ⟨.port, "80"⟩, ⟨.port, "443"⟩,
    ⟨.logLevel, "error"⟩], []⟩

theorem arguments_settled_joined :
    (∃ (config : Config) (level : Log.Level),
      (run ["-esp", "80", "--port=443", "--log-level", "error"] .silent).server? =
        some (config, level) ∧
      config.port = .int 443 ∧ config.mode = .message ∧ level = .error) ∧
    run ["-e", "--version", "-p", "none"] .silent = ⟨[.out versionText], .status 0, none⟩ := by
  constructor
  · have hspelled : Spelled ["-esp", "80", "--port=443", "--log-level", "error"]
        joined.options [] :=
      .dashed (.letters (.flag rfl rfl (.flag rfl rfl (.apart "80" _ rfl rfl))))
        (.dashed (.attached (k := .port) "443" _ rfl)
          (.dashed (.apart (k := .logLevel) "error" [] rfl) .done))
    have hproper : Proper joined.options :=
      ⟨eager?_eq_none_iff.1 (rfl : joined.eager? = none),
        checkAll_keys.1 (rfl : checkAll joined joined.keys = .ok ())⟩
    obtain ⟨config, level, loggers, ending, hasks, -, hrun, -⟩ :=
      (arguments_settled _ .silent).1 joined.options hspelled hproper
    refine ⟨config, level, congrArg Result.server? hrun, ?_, hasks.mode, ?_⟩
    · obtain ⟨n, hn, hport⟩ := hasks.port
      have hgiven : joined.numberOr .port (.int 2001) = .int 443 := rfl
      rw [hport, Value.int.inj ((numberOr_eq hn).symm.trans hgiven)]
    · have hgiven : joined.call.chosenLevel = .text "error" := rfl
      have hword := Value.text.inj (hgiven.symm.trans (chosenLevel_call hasks.level))
      exact Option.some.inj ((Log.Level.ofWord?_eq_some_iff.2 hword).symm.trans rfl)
  · have hspelled : Spelled ["-e", "--version", "-p", "none"]
        ([⟨.echo, ""⟩] ++ ⟨.version, ""⟩ :: [⟨.port, "none"⟩]) [] :=
      .dashed (.letters (.flag rfl rfl (.done _)))
        (.dashed (.flag (k := .version) _ rfl)
          (.dashed (.letters (.apart "none" [] rfl rfl)) .done))
    refine ((arguments_settled _ .silent).2.1 _ _ _ _ hspelled ?_).1 rfl
    simp [Key.Eager]

end SctpProbe.CommandLine
