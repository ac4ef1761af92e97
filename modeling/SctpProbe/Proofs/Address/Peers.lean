import SctpProbe.Address.Peer
import SctpProbe.Proofs.Address.Hosts
import SctpProbe.Proofs.Rendering
set_option autoImplicit false

namespace SctpProbe

namespace Text

theorem ofInt_injective {m n : Int} (h : ofInt m = ofInt n) : m = n := by
  have hminus (k : Nat) : '-' ∉ Nat.toDigits 10 k := not_mem_toDigits (by decide) k
  simp only [ofInt] at h
  split at h <;> split at h
  · have := toDigits_injective (List.cons.inj h).2
    omega
  · exact absurd (h ▸ List.mem_cons_self) (hminus _)
  · exact absurd (h.symm ▸ List.mem_cons_self) (hminus _)
  · have := toDigits_injective h
    omega

theorem colon_not_mem_ofInt (n : Int) : ':' ∉ ofInt n := by
  have h := not_mem_toDigits (c := ':') rfl n.natAbs
  unfold ofInt
  split <;> simp [h]

theorem append_colon_inj {as bs cs ds : List Char} (h : as ++ ':' :: bs = cs ++ ':' :: ds)
    (hb : ':' ∉ bs) (hd : ':' ∉ ds) : as = cs ∧ bs = ds := by
  rcases List.append_eq_append_iff.1 h with ⟨mid, rfl, hmid⟩ | ⟨mid, rfl, hmid⟩
  · cases mid with
    | nil => simpa using hmid
    | cons c mid => simp [(List.cons.inj hmid).2] at hb
  · cases mid with
    | nil => simpa using hmid.symm
    | cons c mid => simp [(List.cons.inj hmid).2] at hd

end Text

theorem Value.denoted?_eq_error_iff {v : Value} {f : Fault} : v.denoted? = .error f ↔
    f = .infiniteNumber ∧ ∃ negative, v = .float (.infinity negative) := by
  constructor
  · intro h
    refine ⟨denoted?_error h, ?_⟩
    unfold denoted? at h
    split at h
    · cases h
    · cases h
    · cases h
    · next hnan _ _ =>
      unfold truncated? at h
      split at h
      · cases h
      · cases h
      · cases h
      · exact ⟨_, rfl⟩
      · exact absurd rfl hnan
      · cases h
  · rintro ⟨rfl, negative, rfl⟩
    rfl

theorem Address.Host.exists_shown {v : Value} {a : Address} (h : Host v a) :
    ∃ s, v.shown = .ok s := by
  have hint {v : Value} {n : Nat} (hv : v.int? = some n) (hn : n < Nat.pow 2 128) :
      ∃ s, v.shown = .ok s := by
    cases v with
    | bool b => exact ⟨_, rfl⟩
    | int m =>
      cases hv
      rw [Value.shown_int, Value.intText_of_writable (Text.writable_of_lt hn)]
      exact ⟨_, rfl⟩
    | _ => cases hv
  cases h with
  | quad | literal | packed4 | packed6 => exact ⟨_, rfl⟩
  | small hv hn => exact hint hv (Nat.lt_of_lt_of_le hn (by decide))
  | large hv _ hn => exact hint hv hn

theorem Address.mapped?_eq_some_iff {bits n : Nat} : mapped? bits = some n ↔
    n < 0x100000000 ∧ bits = 0xFFFF00000000 + n := by
  unfold mapped?
  split
  · simp only [Option.some.injEq]
    omega
  · simp only [reduceCtorEq, false_iff]
    omega

theorem Address.mapped?_eq_none_iff {bits : Nat} : mapped? bits = none ↔
    ∀ n : Fin 0x100000000, bits ≠ 0xFFFF00000000 + n := by
  simp only [Option.eq_none_iff_forall_ne_some, ne_eq, mapped?_eq_some_iff, not_and, Fin.forall_iff]

theorem Address.Host.unique {v : Value} {a b : Address} (ha : Host v a) (hb : Host v b) :
    a = b := by
  have h := ofValue_eq_ok_iff.2 ha
  rw [ofValue_eq_ok_iff.2 hb, Except.ok.injEq] at h
  exact h.symm

namespace Peer

open Address (Host Literal6)

/-- Host and port of a socket address, and the family that its length stands for. -/
inductive Parts : Value → Family → Value → Value → Prop
  | pair (host port : Value) : Parts (.tuple [host, port]) .inet host port
  | quadruple (host port flow scope : Value) :
    Parts (.tuple [host, port, flow, scope]) .inet6 host port

/-- The peer of a socket address whose host stands for the address `a` and whose port denotes `n`.
-/
inductive Reads (v : Value) : Peer → Address → Int → Prop
  | of {family : Family} {host port : Value} {a : Address} {n : Int}
    (parts : Parts v family host port) (stands : Host host a)
    (denotes : port.denoted? = .ok (some n)) : Reads v ⟨family, host, .int n⟩ a n

theorem ofSocketAddress_of_parts {v host port : Value} {family : Family}
    (h : Parts v family host port) : ofSocketAddress v = ofParts family host port := by
  cases h <;> rfl

theorem ofSocketAddress_of_not_parts {v : Value}
    (h : ∀ family host port, ¬ Parts v family host port) : ofSocketAddress v = .ok none := by
  unfold ofSocketAddress
  split
  · exact absurd (.pair _ _) (h _ _ _)
  · exact absurd (.quadruple _ _ _ _) (h _ _ _)
  · rfl

theorem ofParts_of_host {family : Family} {host port : Value} {a : Address} (h : Host host a) :
    ofParts family host port =
      port.denoted?.map fun n? => n?.map fun n => ⟨family, host, .int n⟩ := by
  rw [ofParts, Address.ofValue_eq_ok_iff.2 h]
  simp only
  cases port.denoted? with
  | error f => rfl
  | ok n? => cases n? <;> rfl

theorem ofParts_of_not_host {family : Family} {host port : Value} (h : ∀ a, ¬ Host host a) :
    ofParts family host port = .ok none := by
  unfold ofParts
  split
  · rfl
  · next a ha => exact absurd (Address.ofValue_eq_ok_iff.1 ha) (h a)

/-- A socket address tells nobody, or its port decides. -/
theorem ofSocketAddress_cases (v : Value) : ofSocketAddress v = .ok none ∨
    ∃ family host port a, Parts v family host port ∧ Host host a ∧
      ofSocketAddress v = port.denoted?.map fun n? => n?.map fun n => ⟨family, host, .int n⟩ := by
  by_cases hparts : ∃ family host port, Parts v family host port
  · obtain ⟨family, host, port, hparts⟩ := hparts
    rw [ofSocketAddress_of_parts hparts]
    by_cases hhost : ∃ a, Host host a
    · obtain ⟨a, ha⟩ := hhost
      exact .inr ⟨family, host, port, a, hparts, ha, ofParts_of_host ha⟩
    · exact .inl (ofParts_of_not_host fun a ha => hhost ⟨a, ha⟩)
  · exact .inl (ofSocketAddress_of_not_parts fun family host port h =>
      hparts ⟨family, host, port, h⟩)

theorem ofSocketAddress_eq_some_iff {v : Value} {p : Peer} :
    ofSocketAddress v = .ok (some p) ↔ ∃ a n, Reads v p a n := by
  constructor
  · intro h
    rcases ofSocketAddress_cases v with hnone | ⟨family, host, port, a, hparts, ha, hport⟩
    · rw [hnone] at h
      cases h
    · rw [hport] at h
      rcases hd : port.denoted? with f | n?
      · simp [hd, Except.map] at h
      · cases n? with
        | none => simp [hd, Except.map] at h
        | some n =>
          simp only [hd, Except.map, Option.map_some, Except.ok.injEq, Option.some.injEq] at h
          subst h
          exact ⟨a, n, .of hparts ha hd⟩
  · rintro ⟨a, n, hparts, ha, hport⟩
    rw [ofSocketAddress_of_parts hparts, ofParts_of_host ha, hport]
    rfl

theorem ofSocketAddress_eq_error_iff {v : Value} {f : Fault} :
    ofSocketAddress v = .error f ↔ f = .infiniteNumber ∧
      ∃ family host negative a,
        Parts v family host (.float (.infinity negative)) ∧ Host host a := by
  constructor
  · intro h
    refine ⟨ofSocketAddress_error h, ?_⟩
    rcases ofSocketAddress_cases v with hnone | ⟨family, host, port, a, hparts, ha, hport⟩
    · rw [hnone] at h
      cases h
    · rw [hport] at h
      rcases hd : port.denoted? with f' | n?
      · obtain ⟨-, negative, rfl⟩ := Value.denoted?_eq_error_iff.1 hd
        exact ⟨family, host, negative, a, hparts, ha⟩
      · simp [hd, Except.map] at h
  · rintro ⟨rfl, family, host, negative, a, hparts, ha⟩
    rw [ofSocketAddress_of_parts hparts, ofParts_of_host ha]
    rfl

/-- An IPv4 address where an IPv6 address belongs. -/
def Misplaced (p : Peer) (a : Address) : Prop := p.family = .inet6 ∧ ∃ n, a = .v4 n

section

variable {v : Value} {p : Peer} {a : Address} {n : Int}

theorem Reads.mapped?_eq_error_iff (h : Reads v p a n) {f : Fault} :
    p.mapped? = .error f ↔ f = .noMappedForm ∧ Misplaced p a := by
  obtain ⟨parts, stands, -⟩ := h
  cases parts with
  | pair => simp [mapped?, Misplaced]
  | quadruple =>
    rw [mapped?, Address.ofValue_eq_ok_iff.2 stands]
    cases a with
    | v4 m =>
      simp [Misplaced, bind, Except.bind, throw, throwThe, MonadExceptOf.throw, eq_comm]
    | v6 bits => simp [Misplaced, bind, Except.bind, pure, Except.pure]

theorem mapped?_of_literal {s : String} {bits : Nat} {port : Value} (h : Literal6 s.toList bits) :
    mapped? ⟨.inet6, .text s, port⟩ =
      .ok ((Address.mapped? bits).map fun n => String.ofList (Address.quad n)) := by
  simp only [mapped?, Address.ofValue_eq_ok_iff.2 (.literal h), bind, Except.bind, pure,
    Except.pure]

theorem Reads.shown_eq (h : Reads v p a n) : (Misplaced p a ∧ p.shown = .error .noMappedForm) ∨
    (¬ Misplaced p a ∧
      ∃ front, p.shown = (Value.intText n).map fun port => front ++ ":" ++ port) := by
  obtain ⟨parts, stands, -⟩ := h
  obtain ⟨host, hhost⟩ := stands.exists_shown
  cases parts with
  | pair =>
    refine .inr ⟨by simp [Misplaced], host, ?_⟩
    simp only [shown, hhost, Value.shown_int, bind, Except.bind]
    cases Value.intText n <;> rfl
  | quadruple =>
    cases a with
    | v4 m =>
      refine .inl ⟨⟨rfl, m, rfl⟩, ?_⟩
      simp only [shown, mapped?, Address.ofValue_eq_ok_iff.2 stands]
      rfl
    | v6 bits =>
      refine .inr ⟨by simp [Misplaced], ?_⟩
      simp only [shown, mapped?, Address.ofValue_eq_ok_iff.2 stands, hhost, Value.shown_int, bind,
        Except.bind, pure, Except.pure]
      cases hm : Address.mapped? bits with
      | some m =>
        refine ⟨String.ofList (Address.quad m), ?_⟩
        cases Value.intText n <;> rfl
      | none =>
        refine ⟨"[" ++ host ++ "]", ?_⟩
        have hbracket (port : String) :
            "[" ++ host ++ "]:" ++ port = "[" ++ host ++ "]" ++ ":" ++ port :=
          String.toList_inj.1 (by simp)
        cases Value.intText n with
        | error f => rfl
        | ok port => exact congrArg Except.ok (hbracket port)

theorem Reads.shown_eq_error_iff (h : Reads v p a n) {f : Fault} : p.shown = .error f ↔
    f = .noMappedForm ∧ Misplaced p a ∨
      f = .tooManyDigits ∧ ¬ Misplaced p a ∧ ¬ Text.Writable n := by
  rcases h.shown_eq with ⟨hm, hs⟩ | ⟨hm, front, hs⟩
  · simp [hs, hm, eq_comm]
  · rw [hs, Value.intText]
    split <;> simp_all [Except.map, eq_comm]

theorem Reads.shown_ne_unknown (h : Reads v p a n) : p.shown ≠ .ok unknown := by
  have hcolon (front port : String) : front ++ ":" ++ port ≠ unknown := by
    intro he
    have hm : ':' ∈ (front ++ ":" ++ port).toList := by simp
    rw [he] at hm
    exact absurd hm (by decide)
  rcases h.shown_eq with ⟨-, hs⟩ | ⟨-, front, hs⟩
  · simp [hs]
  · rw [hs]
    cases Value.intText n with
    | error f => simp [Except.map]
    | ok port => simp [Except.map, hcolon]

theorem display_eq_unknown_iff : display v = .ok unknown ↔ ofSocketAddress v = .ok none := by
  unfold display
  cases hp : ofSocketAddress v with
  | error f => simp [bind, Except.bind]
  | ok p? =>
    cases p? with
    | none => simp [bind, Except.bind, shownOrUnknown]
    | some p =>
      obtain ⟨a, n, h⟩ := ofSocketAddress_eq_some_iff.1 hp
      simpa [bind, Except.bind, shownOrUnknown] using h.shown_ne_unknown

end

/-- Where a peer is: at an IPv4 address, or at an IPv6 address as it was spelled. -/
inductive Place
  | v4 (bits : Fin 0x100000000) (port : Int)
  | v6 (host : String) (port : Int)
  deriving DecidableEq, Repr

namespace Place

def port : Place → Int
  | .v4 _ port => port
  | .v6 _ port => port

def front : Place → List Char
  | .v4 bits _ => Address.quad bits
  | .v6 host _ => '[' :: host.toList ++ [']']

def text (x : Place) : String := String.ofList (x.front ++ ':' :: Text.ofInt x.port)

theorem eq_of_front_eq {x y : Place} (hfront : x.front = y.front) (hport : x.port = y.port) :
    x = y := by
  -- The bracket tells an IPv6 address from an IPv4 one.
  have hbracket (n : Nat) (cs : List Char) : Address.quad n ≠ '[' :: cs := by
    intro he
    have := Address.not_mem_quad (c := '[') (by decide) (by decide) n
    simp [he] at this
  cases x with
  | v4 m j =>
    cases y with
    | v4 n k =>
      obtain rfl : m = n := Fin.ext (Address.quad_injective m.isLt n.isLt hfront)
      obtain rfl : j = k := hport
      rfl
    | v6 t k => exact absurd hfront (hbracket m _)
  | v6 s j =>
    cases y with
    | v4 n k => exact absurd hfront.symm (hbracket n _)
    | v6 t k =>
      obtain rfl : s = t := by
        have hhost := (List.cons.inj hfront).2
        exact String.toList_inj.1 (List.append_inj_left' hhost rfl)
      obtain rfl : j = k := hport
      rfl

theorem text_injective : Function.Injective text := by
  intro x y h
  obtain ⟨hfront, hport⟩ := Text.append_colon_inj (String.ofList_injective h)
    (Text.colon_not_mem_ofInt _) (Text.colon_not_mem_ofInt _)
  exact eq_of_front_eq hfront (Text.ofInt_injective hport)

end Place

/-- A peer whose host is the text of a literal of its family, and the place of that peer. -/
inductive At : Peer → Place → Prop
  | quad (n : Fin 0x100000000) (port : Int) :
    At ⟨.inet, .text (String.ofList (Address.quad n)), .int port⟩ (.v4 n port)
  | mapped {s : String} {n : Fin 0x100000000} {port : Int}
    (h : Literal6 s.toList (0xFFFF00000000 + n)) :
    At ⟨.inet6, .text s, .int port⟩ (.v4 n port)
  | literal {s : String} {bits : Nat} {port : Int} (h : Literal6 s.toList bits)
    (hm : ∀ n : Fin 0x100000000, bits ≠ 0xFFFF00000000 + n) :
    At ⟨.inet6, .text s, .int port⟩ (.v6 s port)

section

variable {p : Peer} {x : Place}

theorem At.shown_eq (h : At p x) :
    p.shown = (Value.intText x.port).map fun port => String.ofList x.front ++ ":" ++ port := by
  cases h with
  | quad n port =>
    simp only [shown, Value.shown_text, Value.shown_int, bind, Except.bind, Place.port]
    cases Value.intText port <;> rfl
  | @mapped s n port h =>
    simp only [shown, mapped?_of_literal h, Address.mapped?_eq_some_iff.2 ⟨n.isLt, rfl⟩,
      Value.shown_int, bind, Except.bind, Option.map_some, Place.port]
    cases Value.intText port <;> rfl
  | @literal s bits port h hm =>
    have hbracket (port : String) :
        "[" ++ s ++ "]:" ++ port = String.ofList (Place.v6 s 0).front ++ ":" ++ port :=
      String.toList_inj.1 (by simp [Place.front])
    simp only [shown, mapped?_of_literal h, Address.mapped?_eq_none_iff.2 hm, Value.shown_text,
      Value.shown_int, bind, Except.bind, Option.map_none, Place.port]
    cases Value.intText port with
    | error f => rfl
    | ok port => exact congrArg Except.ok (hbracket port)

theorem At.shown_eq_ok_iff (h : At p x) {s : String} :
    p.shown = .ok s ↔ Text.Writable x.port ∧ s = x.text := by
  rw [h.shown_eq, Value.intText]
  have htext : String.ofList x.front ++ ":" ++ String.ofList (Text.ofInt x.port) = x.text :=
    String.toList_inj.1 (by simp [Place.text])
  split
  · next hw => simp [Except.map, htext, hw, eq_comm]
  · next hw => simp [Except.map, hw]

end

theorem Reads.exists_at_iff {v : Value} {p : Peer} {a : Address} {n : Int} (h : Reads v p a n) :
    (∃ x, At p x) ↔ (∃ s, p.host = .text s) ∧
      ((p.family = .inet ∧ ∃ m, a = .v4 m) ∨ (p.family = .inet6 ∧ ∃ bits, a = .v6 bits)) := by
  obtain ⟨-, stands, -⟩ := h
  constructor
  · rintro ⟨x, hx⟩
    cases hx with
    | quad m => exact ⟨⟨_, rfl⟩, .inl ⟨rfl, m, stands.unique (.quad m.isLt)⟩⟩
    | mapped h => exact ⟨⟨_, rfl⟩, .inr ⟨rfl, _, stands.unique (.literal h)⟩⟩
    | literal h => exact ⟨⟨_, rfl⟩, .inr ⟨rfl, _, stands.unique (.literal h)⟩⟩
  · rintro ⟨⟨s, hs⟩, ⟨hf, m, rfl⟩ | ⟨hf, bits, rfl⟩⟩
    · cases hf
      cases hs
      cases stands with
      | quad hn => exact ⟨_, .quad ⟨m, hn⟩ n⟩
      | small hv => cases hv
    · cases hf
      cases hs
      cases stands with
      | literal h =>
        by_cases hm : ∃ m : Fin 0x100000000, bits = 0xFFFF00000000 + m
        · obtain ⟨m, rfl⟩ := hm
          exact ⟨_, .mapped h⟩
        · exact ⟨_, .literal h fun m he => hm ⟨m, he⟩⟩
      | large hv => cases hv

/-- What there is to say about a peer that was read: where its mapped form and its text are missing,
and which peers have the text of a place. -/
structure Legible (p : Peer) (a : Address) (n : Int) : Prop where
  unmapped : ∀ f, p.mapped? = .error f ↔ f = .noMappedForm ∧ Misplaced p a
  textless : ∀ f, p.shown = .error f ↔ f = .noMappedForm ∧ Misplaced p a ∨
    f = .tooManyDigits ∧ ¬ Misplaced p a ∧ ¬ Text.Writable n
  placed : (∃ x, At p x) ↔ (∃ s, p.host = .text s) ∧
    ((p.family = .inet ∧ ∃ m, a = .v4 m) ∨ (p.family = .inet6 ∧ ∃ bits, a = .v6 bits))
  told : ∀ x, At p x → ∀ s, p.shown = .ok s ↔ Text.Writable n ∧ s = x.text

theorem Reads.legible {v : Value} {p : Peer} {a : Address} {n : Int} (h : Reads v p a n) :
    Legible p a n where
  unmapped _ := h.mapped?_eq_error_iff
  textless _ := h.shown_eq_error_iff
  placed := h.exists_at_iff
  told x hx s := by
    have hport : x.port = n := by
      obtain ⟨-, -, -⟩ := h
      cases hx <;> rfl
    rw [hx.shown_eq_ok_iff, hport]

/-- What becomes of a socket address, whatever it is. -/
theorem peers_interpreted (v : Value) :
    (∀ f, ofSocketAddress v = .error f ↔ f = .infiniteNumber ∧
      ∃ family host negative a,
        Parts v family host (.float (.infinity negative)) ∧ Host host a) ∧
    (∀ p, ofSocketAddress v = .ok (some p) ↔ ∃ a n, Reads v p a n) ∧
    (display v = .ok unknown ↔ ofSocketAddress v = .ok none) ∧
    (∀ p a n, Reads v p a n → Legible p a n) ∧ Function.Injective Place.text :=
  ⟨fun _ => ofSocketAddress_eq_error_iff, fun _ => ofSocketAddress_eq_some_iff,
    display_eq_unknown_iff, fun _ _ _ h => h.legible, Place.text_injective⟩

theorem peers_interpreted_mapped : ∃ p, ofSocketAddress
    (.tuple [.text "::ffff:198.51.100.7", .int 5000, .int 0, .int 0]) = .ok (some p) ∧
      p.shown = .ok "198.51.100.7:5000" := by
  obtain ⟨-, hsome, -, hlegible, -⟩ := peers_interpreted
    (.tuple [.text "::ffff:198.51.100.7", .int 5000, .int 0, .int 0])
  have hliteral : Literal6 "::ffff:198.51.100.7".toList
      (0xFFFF00000000 + (3325256711 : Fin 0x100000000)) :=
    Address.ofText?_eq_v6_iff.1 (by decide)
  have hreads : Reads _ _ _ 5000 :=
    .of (.quadruple _ (.int 5000) (.int 0) (.int 0)) (.literal hliteral) rfl
  have htold := (hlegible _ _ _ hreads).told _ (.mapped hliteral) "198.51.100.7:5000"
  have hwritable : Text.Writable 5000 := Text.writable_of_lt (n := 5000) (by decide)
  exact ⟨_, (hsome _).2 ⟨_, _, hreads⟩, htold.2 ⟨hwritable, by decide⟩⟩

/-- An infinite port is a fault, and so is the text of an IPv4 peer in a quadruple. -/
theorem fault_of_infinite_port :
    (¬ ∀ v, ∃ p?, ofSocketAddress v = .ok p?) ∧
      ¬ ∀ v p, ofSocketAddress v = .ok (some p) → ∃ s, p.shown = .ok s := by
  constructor
  · intro h
    obtain ⟨p, hp⟩ := h (.tuple [.text "192.0.2.1", .float (.infinity false)])
    have hfault : ofSocketAddress (.tuple [.text "192.0.2.1", .float (.infinity false)]) =
        .error .infiniteNumber := rfl
    rw [hfault] at hp
    cases hp
  · intro h
    obtain ⟨s, hs⟩ := h (.tuple [.text "192.0.2.10", .int 80, .int 0, .int 0]) _ rfl
    have hfault : shown ⟨.inet6, .text "192.0.2.10", .int 80⟩ = .error .noMappedForm := rfl
    rw [hfault] at hs
    cases hs

/-- A peer reached by its mapped address is shown like the IPv4 peer, however the address is
spelled; every other IPv6 peer is shown with its address as it was spelled. -/
theorem mapped_shown_alike {h : String} {bits : Nat} (hh : Literal6 h.toList bits)
    {port : Value} {k : Int} (hport : port.denoted? = .ok (some k)) (hk : Text.Writable k)
    (flow scope : Value) :
    (∀ cs b, Address.ofText? cs = some (.v6 b) ↔ Literal6 cs b) ∧
    ∃ p, ofSocketAddress (.tuple [.text h, port, flow, scope]) = .ok (some p) ∧
      (∀ n : Fin 0x100000000, bits = 0xFFFF00000000 + n →
        p.mapped? = .ok (some (String.ofList (Address.quad n))) ∧
        ∃ q, ofSocketAddress (.tuple [.text (String.ofList (Address.quad n)), port]) =
            .ok (some q) ∧
          q.shown = .ok (String.ofList (Address.quad n) ++ ":" ++ String.ofList (Text.ofInt k)) ∧
          p.shown = q.shown) ∧
      ((∀ n : Fin 0x100000000, bits ≠ 0xFFFF00000000 + n) →
        p.mapped? = .ok none ∧
        p.shown = .ok ("[" ++ h ++ "]:" ++ String.ofList (Text.ofInt k))) := by
  refine ⟨fun _ _ => Address.ofText?_eq_v6_iff, ⟨.inet6, .text h, .int k⟩,
    ofSocketAddress_eq_some_iff.2 ⟨_, _, .of (.quadruple _ _ _ _) (.literal hh) hport⟩, ?_, ?_⟩
  · rintro n rfl
    have hmapped : At ⟨.inet6, .text h, .int k⟩ (.v4 n k) := .mapped hh
    have hquad := (At.quad n k).shown_eq
    refine ⟨?_, _, ofSocketAddress_eq_some_iff.2 ⟨_, _, .of (.pair _ _) (.quad n.isLt) hport⟩, ?_,
      hmapped.shown_eq.trans hquad.symm⟩
    · rw [mapped?_of_literal hh, Address.mapped?_eq_some_iff.2 ⟨n.isLt, rfl⟩]
      rfl
    · rw [hquad, Place.port, Value.intText_of_writable hk]
      rfl
  · intro hm
    refine ⟨?_, ?_⟩
    · rw [mapped?_of_literal hh, Address.mapped?_eq_none_iff.2 hm]
      rfl
    · rw [(At.literal hh hm).shown_eq, Place.port, Value.intText_of_writable hk]
      exact congrArg Except.ok (String.toList_inj.1 (by simp [Place.front]))

theorem mapped_shown_alike_scoped : ∃ p,
    ofSocketAddress (.tuple [.text "::FFFF:c633:6407%eth0", .int 5000, .int 7, .int 2]) =
      .ok (some p) ∧ p.shown = .ok "198.51.100.7:5000" := by
  have hliteral : Literal6 "::FFFF:c633:6407%eth0".toList
      (0xFFFF00000000 + (3325256711 : Fin 0x100000000)) :=
    Address.ofText?_eq_v6_iff.1 (by decide)
  have hwritable : Text.Writable 5000 := Text.writable_of_lt (n := 5000) (by decide)
  have hport : (Value.int 5000).denoted? = .ok (some 5000) := rfl
  obtain ⟨-, p, hp, hmapped, -⟩ := mapped_shown_alike hliteral hport hwritable (.int 7) (.int 2)
  obtain ⟨-, q, -, hq, hshown⟩ := hmapped _ rfl
  exact ⟨p, hp, by rw [hshown, hq]; decide⟩

end Peer

end SctpProbe
