import SctpProbe.Proofs.Frame
set_option autoImplicit false

namespace SctpProbe

open Network

namespace Network

def Delivers (script : List (Item (List UInt8))) (bytes : List UInt8) : Prop :=
  ∃ i ∈ script, ∃ payload, i.payload? = some payload ∧ bytes <:+: payload

theorem Delivers.of_infix {script : List (Item (List UInt8))} {xs ys : List UInt8}
    (h : xs <:+: ys) (hy : Delivers script ys) : Delivers script xs := by
  obtain ⟨i, hi, payload, hp, hinfix⟩ := hy
  exact ⟨i, hi, payload, hp, h.trans hinfix⟩

def Within (source : List UInt8 → Prop) (script : List (Item (List UInt8))) : Prop :=
  ∀ i ∈ script, ∀ payload, i.payload? = some payload → source payload

/-- Whether what an event tells of bytes is told of bytes from a source: a line is one of a dump, or
says that the peer is gone. -/
def Event.From (source : List UInt8 → Prop) : Event → Prop
  | .line text => .line text ∈ console "Connection closed by the remote host" ∨
    ∃ bytes, source bytes ∧
      .line text ∈ console (HexDump.text "Received data" HexDump.usualWidth bytes)
  | .sent _ bytes => source bytes
  | _ => True

def Trace.From (source : List UInt8 → Prop) (t : Trace) : Prop := ∀ e ∈ t, e.From source

namespace Trace

variable {source : List UInt8 → Prop} {t u : Trace}

theorem from_nil : From source [] := by simp [From]

theorem from_append : From source (t ++ u) ↔ From source t ∧ From source u :=
  List.forall_mem_append

theorem from_singleton {e : Event} : From source [e] ↔ e.From source := by simp [From]

theorem from_speak (level : Log.Level) (speaker : Log.Speaker) (message : String) :
    From source (speak level speaker message) := by
  simp [From, speak, Event.From]

theorem from_stops (h : ∀ e ∈ t, e.isStop = true) : From source t := by
  intro e he
  have h0 := h e he
  cases e <;> simp_all [Event.isStop, Event.From]

theorem from_dump {bytes : List UInt8} (h : source bytes) :
    From source (console (HexDump.text "Received data" HexDump.usualWidth bytes)) := by
  intro e he
  obtain ⟨l, -, hl⟩ := List.mem_map.1 he
  subst hl
  exact .inr ⟨bytes, h, he⟩

theorem from_closing : From source (console "Connection closed by the remote host") := by
  intro e he
  obtain ⟨l, -, hl⟩ := List.mem_map.1 he
  subst hl
  exact .inl he

end Trace

theorem from_wait {α : Type} (source : List UInt8 → Prop) (timeout : Value) (t : Token)
    (e : Endpoint α) : Trace.From source (wait timeout t e).trace := by
  have hb : Trace.From source (e.beginning t).1 := Trace.from_stops (e.isStop_beginning t)
  rcases wait_cases timeout t e with ⟨f, -, ht, -⟩ | ⟨o, -, ht, -⟩
  · rwa [ht]
  · rw [ht]
    exact Trace.from_append.2 ⟨hb, Trace.from_singleton.2 trivial⟩

end Network

namespace Stream

open Trace (from_nil from_append from_singleton from_speak from_stops)

section

variable {source : List UInt8 → Prop}
  (hpiece : ∀ {xs ys : List UInt8}, xs <:+: ys → source ys → source xs)

include hpiece

theorem from_echo (sendTimeout : Value) (id : SocketId) (item : Item (List UInt8))
    (sends : List Send) (token : Token) {bytes : List UInt8} (h : source bytes) :
    Trace.From source (echo sendTimeout id item sends token bytes).trace := by
  have hcomposes : Composes fun _ u _ => Trace.From source u :=
    ⟨fun _ => from_nil, fun h k => from_append.2 ⟨h, k⟩⟩
  refine composed_echo hcomposes _ _ _ (fun _ _ _ => from_speak _ _ _) fun t e he => ?_
  refine from_append.2 ⟨from_stops (t.isStop_strike item .send), from_singleton.2 ?_⟩
  cases he with
  | sent hp => exact hpiece hp h
  | failed => trivial

namespace Session

theorem from_report (s : Session) {bytes : List UInt8} (h : source bytes) :
    Trace.From source (s.report bytes) :=
  from_append.2 ⟨from_append.2 ⟨from_singleton.2 trivial, from_speak _ _ _⟩,
    Trace.from_dump (hpiece (List.take_prefix _ _).isInfix h)⟩

theorem from_reply (s : Session) (item : Item (List UInt8)) {bytes : List UInt8}
    (h : source bytes) : Trace.From source (s.report bytes ++ (s.reply item bytes).trace) :=
  from_append.2 ⟨from_report hpiece s h,
    from_echo hpiece _ _ _ _ _ (hpiece (List.take_prefix _ _).isInfix h)⟩

omit hpiece in
theorem from_approach (s : Session) (item : Item (List UInt8)) :
    Trace.From source (s.approach item) :=
  from_append.2 ⟨from_wait source _ _ _, from_stops (s.poll.token.isStop_strike item .call)⟩

omit hpiece in
theorem source_of_ready {s : Session} {item : Item (List UInt8)}
    (hs : Within source s.endpoint.script) (hf : s.poll.found = .ready item) {bytes : List UInt8}
    (hd : item.delivery = .ok bytes) : source bytes :=
  hs item ((wait_of_ready hf).2.1 ▸ List.mem_cons_self) bytes (Item.payload_of_delivery hd)

theorem from_again {s next : Session} {trace : Trace} (h : s.turn = .again trace next)
    (hs : Within source s.endpoint.script) :
    trace.From source ∧ Within source next.endpoint.script := by
  refine ⟨?_, items_again ?_ h hs⟩
  · cases step_again h with
    | idle => exact from_wait source _ _ _
    | @again item _ _ _ hf hr =>
      have hstart : (s.approach item).From source := s.from_approach item
      cases hr with
      | retried => exact from_append.2 ⟨hstart, from_singleton.2 trivial⟩
      | dumped hd =>
        exact from_append.2 ⟨hstart, from_report hpiece _ (source_of_ready hs hf hd)⟩
      | echoed hd =>
        exact from_append.2 ⟨hstart, from_reply hpiece _ item (source_of_ready hs hf hd)⟩
  · rintro i bytes data hi hb - hsuffix payload ⟨⟩
    exact hpiece hsuffix.isInfix (hi bytes hb)

theorem from_done {s : Session} {ran : Ran Session Bool} (h : s.turn = .done ran)
    (hs : Within source s.endpoint.script) : ran.trace.From source := by
  cases step_done h with
  | stopped => exact from_nil
  | broken => exact from_append.2 ⟨from_wait source _ _ _, from_speak _ _ _⟩
  | refused => exact from_wait source _ _ _
  | @done item _ _ hf hr =>
    refine from_append.2 ⟨s.from_approach item, ?_⟩
    cases hr with
    | failed => exact from_append.2 ⟨from_singleton.2 trivial, from_speak _ _ _⟩
    | closed => exact from_append.2 ⟨from_singleton.2 trivial, Trace.from_closing⟩
    | aborted hd => exact from_reply hpiece _ item (source_of_ready hs hf hd)

end Session

end

/-- Whatever a session dumps and sends back comes from its own script. -/
theorem Session.from_run (s : Session) :
    s.run.trace.From (Delivers s.endpoint.script) := by
  have h : ∀ source : List UInt8 → Prop,
      (∀ {xs ys : List UInt8}, xs <:+: ys → source ys → source xs) →
      Within source s.endpoint.script → s.run.trace.From source := by
    intro source hpiece
    refine loop_induction (fun s ran => Within source s.endpoint.script →
      ran.trace.From source) ?_ ?_ s
    · intro s ran h hs
      exact from_done hpiece h hs
    · intro s trace next ran h ih hs
      obtain ⟨htrace, hnext⟩ := from_again hpiece h hs
      exact from_append.2 ⟨htrace, ih hnext⟩
  exact h _ (fun hinfix => Delivers.of_infix hinfix) fun i hi payload hp =>
    ⟨i, hi, payload, hp, List.infix_refl _⟩

end Stream

end SctpProbe
