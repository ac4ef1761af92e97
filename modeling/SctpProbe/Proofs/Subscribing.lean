import SctpProbe.Proofs.Answers.Account
import SctpProbe.Proofs.Buffers.Holding
import SctpProbe.Proofs.Series
import SctpProbe.Proofs.Views.Run
set_option autoImplicit false

/-!
What comes of a subscription that fails. Servicing a mailbox goes by few of the settings
(`Mailbox.Fits`), and the context alone says whether delivery information is described
(`Mailbox.service_under`). So a run whose subscription fails shows what a run shows that was not
asked to describe anything, apart from the subscription, and nothing of that outlasts the run
(`Server.failed_subscription`).
-/

namespace SctpProbe

open Network

section

variable {σ τ α : Type}

def Ran.map (f : σ → τ) (r : Ran σ α) : Ran τ α := ⟨r.trace, f r.state, r.result⟩

def Turn.map (f : σ → τ) : Turn σ α → Turn τ α
  | .again trace next => .again trace (f next)
  | .done ran => .done (ran.map f)

theorem Turn.map_after (f : σ → τ) (t : Turn σ α) (before : Trace) :
    (t.after before).map f = (t.map f).after before := by
  cases t <;> rfl

theorem Ran.seen_all (f : σ → τ) (r : Ran σ α) : r.seen (fun _ => true) f id = r.map f := by
  simp [seen, map]

theorem Turn.seen_all (f : σ → τ) (t : Turn σ α) : t.seen (fun _ => true) f id = t.map f := by
  cases t <;> simp [seen, map, Ran.seen_all]

theorem loop_map {turn : σ → Turn σ α} {weight : σ → Nat} {shrinks : Shrinks turn weight}
    {f : σ → σ} (holds : σ → Prop)
    (step : ∀ s trace next, holds s → turn s = .again trace next → holds next)
    (alike : ∀ s, holds s → turn (f s) = (turn s).map f) (s : σ) (h : holds s) :
    loop turn weight shrinks (f s) = (loop turn weight shrinks s).map f := by
  have hturn : ∀ s, holds s → (turn (f s)).seen (fun _ => true) id id =
      (turn s).seen (fun _ => true) f id := by
    intro s hs
    rw [Turn.seen_all, Turn.seen_all, alike s hs]
    cases turn s <;> rfl
  have hl := @loop_seen σ α turn weight shrinks (fun _ => true) f id holds step
    (fun s hs => .inl (hturn s hs)) s h
  rw [Ran.seen_all, Ran.seen_all] at hl
  exact hl

end

/-- The same context with another configuration and another switch for descriptions. -/
def Context.under (config : Config) (verbose : Value) (c : Context) : Context :=
  { c with config := config, verbose := verbose }

namespace Messaging.Mailbox

section

variable {config : Config} {verbose : Value}

/-- A configuration and a switch that make no difference to the servicing of a mailbox. -/
structure Fits (config : Config) (verbose : Value) (c : Context) : Prop where
  timeout : config.pollTimeout = c.config.pollTimeout
  verbose : verbose.truthy = c.verbose.truthy

theorem Fits.of_kept {c d : Context} (h : Fits config verbose c) (k : c.Kept d) :
    Fits config verbose d :=
  ⟨by rw [k.config, h.timeout], by rw [k.verbose, h.verbose]⟩

def under (config : Config) (verbose : Value) (s : Mailbox) : Mailbox :=
  { s with context := s.context.under config verbose }

variable {s : Mailbox} {item : Item Message}

theorem report_under {c : Context} (h : Fits config verbose c) (p : Piece) (shown : String) :
    report (c.under config verbose) p shown = report c p shown := by
  have hv : (c.under config verbose).verbose.truthy = c.verbose.truthy := h.verbose
  simp only [report, hv]
  rfl

theorem echo_under (s : Mailbox) (item : Item Message) (p : Piece) (info? : Option DeliveryInfo) :
    (s.under config verbose).echo item p info? =
      (s.echo item p info?).map (under config verbose) := by
  unfold echo
  split
  · rfl
  · simp only
    cases DeliveryInfo.reply info? <;> rfl

theorem handle_under (h : Fits config verbose s.context) (p : Piece) :
    (s.under config verbose).handle item p = (s.handle item p).map (under config verbose) := by
  have hreport : ∀ shown, report (s.under config verbose).context p shown =
      report s.context p shown := report_under h p
  unfold handle
  simp only [hreport, echo_under]
  cases Peer.display p.sender with
  | error f => rfl
  | ok shown =>
    change (if s.context.echo.truthy then _ else _) = _
    split <;> rfl

theorem takePiece_under (h : Fits config verbose s.context) (m : Message) :
    (s.under config verbose).takePiece item m =
      (s.takePiece item m).map (under config verbose) := by
  have htaken : (s.under config verbose).taken m = (s.taken m).under config verbose := rfl
  have harrival : (s.under config verbose).arrival m = s.arrival m := rfl
  have hpiece : (s.under config verbose).piece m = s.piece m := rfl
  have hroom : (s.under config verbose).context.room = s.context.room := rfl
  have hhandle := @handle_under config verbose (s.taken m) item (h.of_kept (s.kept_taken m))
    (s.piece m)
  rw [takePiece_eq, takePiece_eq, htaken, harrival, hpiece, hroom, hhandle]
  split
  · rfl
  · split
    · rfl
    · split
      · rfl
      · generalize (s.taken m).handle item (s.piece m) = r
        obtain ⟨trace, state, result⟩ := r
        cases result <;> rfl

theorem receive_under (h : Fits config verbose s.context) :
    (s.under config verbose).receive item = (s.receive item).map (under config verbose) := by
  unfold receive
  cases item.delivery with
  | ok m => exact takePiece_under h m
  | error e =>
    simp only
    split <;> rfl

theorem turn_under (h : Fits config verbose s.context) :
    (s.under config verbose).turn = s.turn.map (under config verbose) := by
  have hpoll : (s.under config verbose).poll = s.poll := by
    change wait config.pollTimeout.toValue _ _ = wait s.context.config.pollTimeout.toValue _ _
    rw [h.timeout]
    rfl
  unfold turn
  change (if s.token.cancelled then _ else _) = Turn.map _ (if s.token.cancelled then _ else _)
  split
  · rfl
  · simp only [hpoll]
    cases s.poll.found with
    | broken e => rfl
    | refused f => rfl
    | idle => rfl
    | ready item =>
      have hr := @receive_under config verbose (s.called item) item h
      simp only [Turn.map_after]
      exact congrArg (Turn.after · _) hr

theorem runOnce_under (h : Fits config verbose s.context) :
    (s.under config verbose).runOnce = s.runOnce.map (under config verbose) :=
  @loop_map _ _ turn remaining shrinks_turn (under config verbose)
    (fun s => Fits config verbose s.context)
    (fun _ _ _ h ht => h.of_kept (frame_again ht).context) (fun _ h => turn_under h) s h

/-- A mailbox is serviced in the same way under every configuration that fits it. -/
theorem service_under (h : Fits config verbose s.context) :
    (s.under config verbose).service = s.service.map (under config verbose) := by
  cases hc : s.token.cancelled with
  | true =>
    rw [s.service_of_cancelled hc, service_of_cancelled (s.under config verbose) hc]
    rfl
  | false =>
    rw [s.service_eq hc, service_eq (s.under config verbose) hc]
    exact runOnce_under h

end

def asking (id : SocketId) (wanted : Bool) (failure? : Option SystemError) : Trace :=
  if wanted then
    subscription id failure? ++ match failure? with
      | some e => Trace.speak .warning .message ("Unable to subscribe to SCTP IO events: " ++
          e.message)
      | none => []
  else []

theorem subscribe_eq (id : SocketId) (failure? : Option SystemError) (c : Context) :
    subscribe id failure? c = (asking id (c.verbose.truthy || c.echo.truthy) failure?,
      { c with verbose :=
        if (c.verbose.truthy || c.echo.truthy) && failure?.isSome then .bool false
        else c.verbose }) := by
  unfold subscribe asking
  cases c.verbose.truthy || c.echo.truthy with
  | false => rfl
  | true => cases failure? <;> simp

/-- Pieces are told of without a description, and sent back with the stream and the identifier that
they came with if that is wanted. -/
def Plain (s : Mailbox) : Prop :=
  ∀ (item : Item Message) (p : Piece), marked notification p.flags = false → p.data ≠ [] →
    (s.handle item p).result = .ok () → ∃ shown, Peer.display p.sender = .ok shown ∧
      (s.handle item p).trace.filter Event.told =
        console ("Packet from " ++ shown ++ "  with " ++ toString p.data.length ++
          " bytes of data") ++
          cutNote s.context.room p.flags ++ p.details false ++
          console (HexDump.text "Received data" HexDump.usualWidth p.data) ++
          if s.context.echo.truthy then p.returned s.endpoint.id (replyFailure s.endpoint.sends)
          else []

theorem plain_of_verbose {s : Mailbox} (h : s.context.verbose.truthy = false) : s.Plain := by
  intro item p hn hd hr
  obtain ⟨shown, hs, ht⟩ := account_handle hn hd hr
  refine ⟨shown, hs, ?_⟩
  rw [ht, Piece.account, hn, if_neg Bool.false_ne_true, if_neg hd, h]

theorem line_not_mem_details (p : Piece) (text : String) : .line text ∉ p.details false := by
  unfold Piece.details
  split
  · simp
  · split
    · simp [Trace.speak]
    · simp

end Messaging.Mailbox

def ServerSocket.answering (socket : ServerSocket) (failure? : Option SystemError) :
    ServerSocket :=
  { socket with obstacles := { socket.obstacles with events? := failure? } }

namespace Server

open Messaging.Mailbox (Fits Plain asking subscribe_eq service_under plain_of_verbose
  line_not_mem_details)

def describing (verbose : Value) (s : Server) : Server :=
  { s with config := { s.config with verbose := verbose } }

section

variable {s : Server} {around : Surroundings} {socket : ServerSocket} {c : Context}
  {e : SystemError} {off : Value} {failure? : Option SystemError}

theorem ofConfig_describing (off : Value) (s : Server) :
    Context.ofConfig (s.describing off).config =
      (Context.ofConfig s.config).map (Context.under (s.describing off).config off) := by
  unfold Context.ofConfig
  change (do let n ← Context.bufferLength s.config.bufferSize; _) = _
  cases Context.bufferLength s.config.bufferSize <;> rfl

theorem prepared_message (hm : s.config.mode = .message) (socket : ServerSocket) (c : Context) :
    s.prepared socket c = (asking s.socketId (c.verbose.truthy || c.echo.truthy)
      socket.obstacles.events?, { c with
        socket? := some s.socketId
        verbose := if (c.verbose.truthy || c.echo.truthy) && socket.obstacles.events?.isSome then
          .bool false else c.verbose }) := by
  have hmode : s.begun.config.mode = .message := hm
  simp only [prepared, prepare, hmode, subscribe_eq]

theorem prepared_failing (hm : s.config.mode = .message) (hv : c.verbose.truthy = true)
    (he : socket.obstacles.events? = some e) :
    s.prepared socket c = (asking s.socketId true (some e),
      { c with socket? := some s.socketId, verbose := .bool false }) := by
  rw [prepared_message hm, hv, he]
  rfl

theorem mainLoop_message (hm : s.config.mode = .message) (socket : ServerSocket) (c : Context) :
    s.mainLoop socket c = ⟨(s.inbox socket c).service.trace,
      { s.up socket c with
        token := (s.inbox socket c).service.state.token
        context? := some (s.inbox socket c).service.state.context },
      (s.inbox socket c).service.result⟩ := by
  have hmode : (s.up socket c).config.mode = .message := hm
  simp only [mainLoop, serve, hmode]
  rfl

/-- Whether a run gets as far as to prepare its socket. -/
def prepares (config : Config) (around : Surroundings) (socket : ServerSocket) : Bool :=
  (Context.ofConfig config).isOk && socket.obstacles.allow around.singleStack

/-- Two runs that come to the same and show the same, but for one thing. -/
structure SameBut (first second : Trace) (ran other : Ran Server Ending) : Prop where
  result : other.result = ran.result
  token : other.state.token = ran.state.token
  trace : ∃ before after, ran.trace = before ++ first ++ after ∧
    other.trace = before ++ second ++ after

theorem SameBut.of_eq {ran other : Ran Server Ending} (hresult : other.result = ran.result)
    (htoken : other.state.token = ran.state.token) (htrace : other.trace = ran.trace) :
    SameBut [] [] ran other :=
  ⟨hresult, htoken, ran.trace, [], by simp, by simp [htrace]⟩

def announcing (s : Server) (around : Surroundings) (socket : ServerSocket) (room : Nat) : Trace :=
  Trace.speak .debug .server ("Allocated " ++ toString room ++ " bytes for recv buffer") ++
    (announce s.config.mode around socket).1

theorem preface_message (hm : s.config.mode = .message) (around : Surroundings)
    (socket : ServerSocket) (c : Context) : s.preface around socket c =
      s.opening ++ (s.setup around socket).1 ++
        asking s.socketId (c.verbose.truthy || c.echo.truthy) socket.obstacles.events? ++
        s.announcing around socket c.room := by
  rw [preface_eq, groundwork, room_prepared, prepared_message hm]
  simp only [announcing, List.append_assoc]

theorem inbox_describing (hm : s.config.mode = .message) (hc : c.config = s.config)
    (hv : c.verbose.truthy = true) (he : socket.obstacles.events? = some e)
    (hoff : off.truthy = false) :
    ∃ verbose, Fits (s.describing off).config verbose (s.inbox socket c).context ∧
      (s.describing off).inbox (socket.answering failure?)
        (c.under (s.describing off).config off) =
      (s.inbox socket c).under (s.describing off).config verbose := by
  have hm' : (s.describing off).config.mode = .message := hm
  refine ⟨if c.echo.truthy && failure?.isSome then .bool false else off, ⟨?_, ?_⟩, ?_⟩
  · change s.config.pollTimeout = (s.prepared socket c).2.config.pollTimeout
    rw [prepared_failing hm hv he, ← hc]
  · change _ = (s.prepared socket c).2.verbose.truthy
    rw [prepared_failing hm hv he]
    split
    · rfl
    · exact hoff
  · unfold inbox
    rw [prepared_message hm', prepared_failing hm hv he]
    simp only [Context.under, hoff, Bool.false_or]
    rfl

theorem mainLoop_describing (hm : s.config.mode = .message) (hc : c.config = s.config)
    (hv : c.verbose.truthy = true) (he : socket.obstacles.events? = some e)
    (hoff : off.truthy = false) {r r' : Ran Server Bool} (hr : r = s.mainLoop socket c)
    (hr' : r' = (s.describing off).mainLoop (socket.answering failure?)
      (c.under (s.describing off).config off)) :
    r'.trace = r.trace ∧ r'.result = r.result ∧
      r'.state.shutDown.1 = r.state.shutDown.1 ∧
      r'.state.shutDown.2.token = r.state.shutDown.2.token := by
  have hm' : (s.describing off).config.mode = .message := hm
  obtain ⟨verbose, hfits, hinbox⟩ :=
    @inbox_describing s socket c e off failure? hm hc hv he hoff
  obtain ⟨d, hdown⟩ := s.shutDown_mainLoop socket c
  obtain ⟨d', hdown'⟩ := (s.describing off).shutDown_mainLoop (socket.answering failure?)
    (c.under (s.describing off).config off)
  rw [← hr] at hdown
  rw [← hr'] at hdown'
  rw [hdown, hdown']
  rw [mainLoop_message hm] at hr
  rw [mainLoop_message hm', hinbox, service_under hfits] at hr'
  rw [hr, hr']
  exact ⟨rfl, rfl, rfl, rfl⟩

theorem sameBut_prepared (around : Surroundings) (hm : s.config.mode = .message)
    (hv : s.config.verbose.truthy = true) (he : socket.obstacles.events? = some e)
    (hoff : off.truthy = false) (hc : Context.ofConfig s.config = .ok c)
    (hs : (s.setup around socket).2 = .ok ()) :
    SameBut (asking s.socketId true (some e)) (asking s.socketId s.config.echo.truthy failure?)
      (s.run around socket)
      ((s.describing off).run around (socket.answering failure?)) := by
  have hm' : (s.describing off).config.mode = .message := hm
  have hsetup : (s.describing off).setup around (socket.answering failure?) =
      s.setup around socket := rfl
  have hannounce : announce (s.describing off).config.mode around (socket.answering failure?) =
      announce s.config.mode around socket := rfl
  have hfresh := Context.fresh_of_ofConfig hc
  have hverbose : c.verbose.truthy = true := hfresh.verbose ▸ hv
  have hpreface := preface_message hm around socket c
  have hpreface' := preface_message hm' around (socket.answering failure?)
    (c.under (s.describing off).config off)
  have hunder : ((c.under (s.describing off).config off).verbose.truthy ||
      (c.under (s.describing off).config off).echo.truthy) = s.config.echo.truthy := by
    simp [Context.under, hoff, hfresh.echo]
  rw [hverbose, he, Bool.true_or] at hpreface
  rw [hunder] at hpreface'
  rw [run_eq, run_eq, ofConfig_describing, hc, hsetup, hannounce]
  simp only [Except.map, hs, hpreface, hpreface']
  cases (announce s.config.mode around socket).2 with
  | error f => exact ⟨rfl, rfl, _, _, rfl, rfl⟩
  | ok u =>
    obtain ⟨htrace, hresult, hdown, htoken⟩ := @mainLoop_describing s socket c e off failure?
      hm hfresh.config hverbose he hoff _ _ rfl rfl
    refine ⟨by rw [hresult], htoken, s.opening ++ (s.setup around socket).1,
      s.announcing around socket c.room ++ (s.mainLoop socket c).trace ++
        (s.mainLoop socket c).state.shutDown.1 ++ farewell (s.mainLoop socket c).result,
      by simp only [List.append_assoc], ?_⟩
    simp only [htrace, hresult, hdown, List.append_assoc]
    rfl

/-- A run whose subscription fails goes on like a run that is not asked for descriptions. -/
theorem sameBut_describing (around : Surroundings) (hm : s.config.mode = .message)
    (hv : s.config.verbose.truthy = true) (he : socket.obstacles.events? = some e)
    (hoff : off.truthy = false) (failure? : Option SystemError) :
    SameBut
      (if prepares s.config around socket then asking s.socketId true (some e) else [])
      (if prepares s.config around socket then
        asking s.socketId s.config.echo.truthy failure? else [])
      (s.run around socket)
      ((s.describing off).run around (socket.answering failure?)) := by
  have hsetup : (s.describing off).setup around (socket.answering failure?) =
      s.setup around socket := rfl
  have hallow := allow_of_setup s around socket
  cases hc : Context.ofConfig s.config with
  | error f =>
    have hp : prepares s.config around socket = false := by
      rw [prepares, hc]
      rfl
    rw [hp, run_eq, run_eq, ofConfig_describing, hc]
    exact .of_eq rfl rfl rfl
  | ok c =>
    cases hs : (s.setup around socket).2 with
    | error err =>
      have hp : prepares s.config around socket = false := by
        rw [prepares, ← hallow, hs]
        simp [Except.isOk, Except.toBool]
      rw [hp, run_eq, run_eq, ofConfig_describing, hc, hsetup]
      simp only [Except.map, hs]
      exact .of_eq rfl rfl rfl
    | ok u =>
      have hp : prepares s.config around socket = true := by
        rw [prepares, ← hallow, hs, hc]
        rfl
      rw [hp]
      exact sameBut_prepared around hm hv he hoff hc hs

/-- What a run comes to that does without descriptions as its subscription has failed. -/
structure Undescribed (s : Server) (around : Surroundings) (socket : ServerSocket) (c : Context) :
    Prop where
  prepared : (s.prepared socket c).2 =
    { c with socket? := some s.socketId, verbose := .bool false }
  reading : ∀ q, Reaches Messaging.Mailbox.turn (s.inbox socket c) q →
    (s.prepared socket c).2.Kept q.context ∧ q.Plain
  left : prepares s.config around socket = true →
    ∃ d, (s.run around socket).state.context? = some d ∧ d.config = s.config ∧
      d.verbose = .bool false ∧ d.echo = s.config.echo ∧ d.socket? = some s.socketId

theorem undescribed_run (around : Surroundings) (hm : s.config.mode = .message)
    (hv : s.config.verbose.truthy = true) (he : socket.obstacles.events? = some e)
    (hc : Context.ofConfig s.config = .ok c) : s.Undescribed around socket c := by
  have hfresh := Context.fresh_of_ofConfig hc
  have hverbose : c.verbose.truthy = true := hfresh.verbose ▸ hv
  have hprepared := congrArg Prod.snd (prepared_failing hm hverbose he)
  refine ⟨hprepared, fun q hq => ?_, fun hp => ?_⟩
  · have hkept : (s.prepared socket c).2.Kept q.context :=
      Messaging.Mailbox.kept_of_reaches hq
    refine ⟨hkept, plain_of_verbose ?_⟩
    rw [hkept.verbose, hprepared]
    rfl
  · have hkept : ∀ d, (s.prepared socket c).2.Kept d → d.config = s.config ∧
        d.verbose = .bool false ∧ d.echo = s.config.echo ∧ d.socket? = some s.socketId := by
      intro d hk
      rw [hprepared] at hk
      exact ⟨hk.config.trans hfresh.config, hk.verbose, hk.echo.trans hfresh.echo, hk.socket⟩
    have hallow := allow_of_setup s around socket
    rw [prepares, hc, ← hallow] at hp
    have hr := s.course around socket
    generalize s.run around socket = ran at hr ⊢
    cases hr with
    | unready hc' => simp [hc] at hc'
    | unset _ hs => simp [hs, Except.isOk, Except.toBool] at hp
    | @unannounced c' _ hc' =>
      cases hc.symm.trans hc'
      exact ⟨_, rfl, hkept _ (.refl _)⟩
    | @served c' hc' =>
      cases hc.symm.trans hc'
      obtain ⟨d, hd, hk⟩ :=
        ((s.up socket c).served s.socketId socket (s.prepared socket c).2).context
      have hdown := shutDown_eq (s.mainLoop socket c).state hd (hkept d hk).2.2.2
      exact ⟨{ d with buffer := [] }, by rw [hdown], hkept d hk⟩

/-- If the subscription fails, a run in message mode does without descriptions: but for the
subscription it shows and comes to what it would if none had been asked for. Its context says so
until its end; the configuration does not, and the next run asks for descriptions again. -/
theorem failed_subscription (s : Server) (around : Surroundings) (socket : ServerSocket)
    {e : SystemError} (hm : s.config.mode = .message) (hv : s.config.verbose.truthy = true)
    (he : socket.obstacles.events? = some e) :
    (∀ off failure?, off.truthy = false → SameBut
      (if prepares s.config around socket then asking s.socketId true (some e) else [])
      (if prepares s.config around socket then
        asking s.socketId s.config.echo.truthy failure? else [])
      (s.run around socket)
      ((s.describing off).run around (socket.answering failure?))) ∧
    (∀ c, Context.ofConfig s.config = .ok c → s.Undescribed around socket c) ∧
    (∀ (p : Messaging.Piece) (text : String), .line text ∉ p.details false) ∧
    ∀ deeds, ((s.run around socket).state.followed deeds).config = s.config ∧
      ∀ c later, Context.ofConfig ((s.run around socket).state.followed deeds).config = .ok c →
        c.verbose = s.config.verbose ∧
        (((s.run around socket).state.followed deeds).prepared later c).1 =
          asking ((s.run around socket).state.followed deeds).socketId true
            later.obstacles.events? ∧
        (later.obstacles.events? = none →
          (((s.run around socket).state.followed deeds).prepared later c).2.verbose =
            s.config.verbose) := by
  refine ⟨fun off failure? hoff => sameBut_describing around hm hv he hoff failure?,
    fun c hc => undescribed_run around hm hv he hc, line_not_mem_details, fun deeds => ?_⟩
  have hconfig : ((s.run around socket).state.followed deeds).config = s.config :=
    (config_followed _ deeds).trans (s.account around socket).config
  refine ⟨hconfig, fun c later hc => ?_⟩
  have hverbose : c.verbose = s.config.verbose := by
    rw [(Context.fresh_of_ofConfig hc).verbose, hconfig]
  have hprepared := @prepared_message ((s.run around socket).state.followed deeds)
    (by rw [hconfig, hm]) later c
  rw [hprepared, hverbose, hv]
  refine ⟨rfl, rfl, fun hnone => ?_⟩
  rw [hnone]
  rfl

def talkative : Server :=
  new { Config.usual with mode := .message, verbose := .bool true, echo := .bool true }

def refusing : ServerSocket :=
  { ServerSocket.silent with
    script := [.delivering ⟨none, some ⟨[104, 105], .tuple [.text "192.0.2.10", .int 36412],
      [⟨sctp, DeliveryInfo.controlKind, List.replicate 32 1⟩], Messaging.endOfRecord⟩⟩]
    obstacles := { Obstacles.none with events? := some .bare } }

theorem failed_subscription_talkative :
    SameBut (asking (.server 0) true (some .bare)) (asking (.server 0) true none)
      (talkative.run ⟨true, true, 0, false⟩ refusing)
      ((talkative.describing (.bool false)).run ⟨true, true, 0, false⟩
        (refusing.answering none)) ∧
    (∃ d, (talkative.run ⟨true, true, 0, false⟩ refusing).state.context? = some d ∧
      d.verbose = .bool false) ∧
    (talkative.run ⟨true, true, 0, false⟩ refusing).trace.filterMap (fun
      | .sentMessage _ _ control _ _ _ => some control
      | _ => none) = [[⟨sctp, DeliveryInfo.controlKind,
        [1, 1] ++ List.replicate 6 0 ++ [1, 1, 1, 1] ++ List.replicate 20 0⟩]] := by
  obtain ⟨hsame, hrun, -, -⟩ := failed_subscription talkative ⟨true, true, 0, false⟩ refusing
    rfl rfl rfl
  have hprepares : prepares talkative.config ⟨true, true, 0, false⟩ refusing = true := by
    decide +kernel
  have hboth := hsame (.bool false) none rfl
  rw [hprepares] at hboth
  obtain ⟨d, hd, -, hv, -⟩ := (hrun _ rfl).left hprepares
  exact ⟨hboth, ⟨d, hd, hv⟩, by decide +kernel⟩

end

end Server

end SctpProbe
