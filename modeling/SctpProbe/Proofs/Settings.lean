import SctpProbe.Context
import SctpProbe.Proofs.Rendering
import Mathlib.Algebra.Order.Field.Rat
import Mathlib.Algebra.Order.Ring.Cast
import Mathlib.Tactic.Ring
set_option autoImplicit false

/-!
Which settings make a configuration (`Config.settings_checked`). The checks compare the settings as
they come; here a setting has a `worth`, the rational number that it is, and a check is a range of
worths that pass. A setting that is no number is of the wrong type, one out of its range has a wrong
value, and the first setting that does not pass decides.

Nothing is said about a nan for the poll timeout.
-/

namespace SctpProbe

namespace Binary64

def worth (negative : Bool) (m : Nat) (e : Int) : ℚ :=
  (if negative then -1 else 1) * m * 2 ^ e

theorem ratio_pos (m : Nat) (e : Int) : 0 < (ratio m e).2 := by
  unfold ratio
  split
  · exact Nat.one_pos
  · exact Nat.pow_pos (by decide)

theorem ratio_eq (m : Nat) (e : Int) : (m : ℚ) * 2 ^ e * (ratio m e).2 = (ratio m e).1 := by
  unfold ratio
  split
  · next he =>
    lift e to ℕ using he
    simp
  · next he =>
    obtain ⟨k, rfl⟩ : ∃ k : ℕ, e = -(k : ℤ) := ⟨(-e).toNat, by omega⟩
    simp

theorem compareInt?_finite (negative : Bool) (m : Nat) (e k : Int) :
    (finite negative m e).compareInt? k = some (compare (worth negative m e) (k : ℚ)) := by
  have hpos : (0 : ℚ) < (ratio m e).2 := by exact_mod_cast ratio_pos m e
  have hworth : worth negative m e * (ratio m e).2 =
      (((if negative then -1 else 1) * ((ratio m e).1 : Int) : Int) : ℚ) := by
    rw [worth, mul_assoc, mul_assoc, ← mul_assoc (m : ℚ), ratio_eq]
    cases negative <;> simp
  have hk : (k : ℚ) * (ratio m e).2 = ((k * (ratio m e).2 : Int) : ℚ) := by push_cast; rfl
  rw [compareInt?, ← cmp_eq_compare, ← cmp_eq_compare, ← cmp_mul_pos_right hpos, hworth, hk,
    Int.cast_strictMono.cmp_map_eq]

end Binary64

/-- The rational number that a value is. -/
def Value.worth? : Value → Option ℚ
  | .bool b => some (ofBool b)
  | .int n => some n
  | .float (.finite s m e) => some (Binary64.worth s m e)
  | _ => none

/-- The value is a number of a range. -/
def Value.Among (v : Value) (range : Set ℚ) : Prop := ∃ q ∈ range, v.worth? = some q

namespace Number

variable {n : Number}

theorem compareInt?_of_worth {q : ℚ} (h : n.toValue.worth? = some q) (k : Int) :
    n.compareInt? k = some (compare q (k : ℚ)) := by
  match n, h with
  | .bool b, h | .int m, h =>
    obtain rfl := Option.some.inj h
    rw [compareInt?, ← cmp_eq_compare, ← cmp_eq_compare, Int.cast_strictMono.cmp_map_eq]
  | .float (.finite s m e), h =>
    obtain rfl := Option.some.inj h
    exact Binary64.compareInt?_finite s m e k

theorem worth_cases (n : Number) :
    (∃ q, n.toValue.worth? = some q) ∨ (∃ s, n = .float (.infinity s)) ∨ n = .float .nan :=
  match n with
  | .bool _ | .int _ | .float (.finite ..) => .inl ⟨_, rfl⟩
  | .float (.infinity s) => .inr (.inl ⟨s, rfl⟩)
  | .float .nan => .inr (.inr rfl)

theorem atMost_of_worth {q : ℚ} (h : n.toValue.worth? = some q) (k : Int) :
    n.atMost k = decide (q ≤ k) := by
  rw [atMost, compareInt?_of_worth h]
  rcases lt_trichotomy q (k : ℚ) with hk | hk | hk
  · simp [compare_lt_iff_lt.2 hk, hk.le]
  · simp [compare_eq_iff_eq.2 hk, hk.le]
  · simp [compare_gt_iff_gt.2 hk, hk]

theorem atLeast_of_worth {q : ℚ} (h : n.toValue.worth? = some q) (k : Int) :
    n.atLeast k = decide (k ≤ q) := by
  rw [atLeast, compareInt?_of_worth h]
  rcases lt_trichotomy q (k : ℚ) with hk | hk | hk
  · simp [compare_lt_iff_lt.2 hk, hk]
  · simp [compare_eq_iff_eq.2 hk, hk.ge]
  · simp [compare_gt_iff_gt.2 hk, hk.le]

theorem above_of_worth {q : ℚ} (h : n.toValue.worth? = some q) (k : Int) :
    n.above k = decide (k < q) := by
  rw [above, compareInt?_of_worth h]
  rcases lt_trichotomy q (k : ℚ) with hk | hk | hk
  · simp [compare_lt_iff_lt.2 hk, hk.le]
  · simp [compare_eq_iff_eq.2 hk, hk.le]
  · simp [compare_gt_iff_gt.2 hk, hk]

end Number

theorem Value.among_iff {v : Value} {q : ℚ} (h : v.worth? = some q) (range : Set ℚ) :
    v.Among range ↔ q ∈ range := by
  simp [Among, h]

theorem Value.not_among {v : Value} (h : v.worth? = none) (range : Set ℚ) : ¬ v.Among range := by
  simp [Among, h]

theorem Number.exists_of_worth {v : Value} {q : ℚ} (h : v.worth? = some q) :
    ∃ n, Number.ofValue? v = some n := by
  match v, h with
  | .bool _, _ | .int _, _ | .float _, _ => exact ⟨_, rfl⟩

theorem Number.toValue_of_ofValue? {v : Value} {n : Number} (h : Number.ofValue? v = some n) :
    n.toValue = v := by
  match v, h with
  | .bool _, rfl | .int _, rfl | .float _, rfl => rfl

inductive Checked
  | port
  | bufferSize
  | mode
  | pollTimeout
  deriving DecidableEq

namespace Checked

def order : List Checked := [.port, .bufferSize, .mode, .pollTimeout]

def value (s : Settings) : Checked → Value
  | .port => s.port
  | .bufferSize => s.bufferSize
  | .mode => s.mode
  | .pollTimeout => s.pollTimeout

def Passes (v : Value) : Checked → Prop
  | .port => v.Among (Set.Icc 0 65535)
  | .bufferSize => v.Among (Set.Ioc 0 65535)
  | .mode => v = .text "stream" ∨ v = .text "message"
  | .pollTimeout => v = .float (.infinity false) ∨ v.Among (Set.Ioi 0)

/-- The mistake that a value is which does not pass. A mode may be of any type. -/
def mistake (v : Value) (k : Checked) : Fault.Family :=
  if k = .mode ∨ (Number.ofValue? v).isSome then .wrongValue else .wrongType

/-- A check for a range lets no infinite number and no nan pass, and decides by the worth. -/
theorem among_iff_of_check {p : Number → Bool} {range : Set ℚ}
    (hworth : ∀ n q, n.toValue.worth? = some q → (p n = true ↔ q ∈ range))
    (hinfinite : ∀ s, p (.float (.infinity s)) = false) (hnan : p (.float .nan) = false)
    (n : Number) : p n = true ↔ n.toValue.Among range := by
  rcases n.worth_cases with ⟨q, hq⟩ | ⟨s, rfl⟩ | rfl
  · rw [Value.among_iff hq, hworth n q hq]
  · exact iff_of_false (by simp [hinfinite]) (Value.not_among rfl _)
  · exact iff_of_false (by simp [hnan]) (Value.not_among rfl _)

theorem passes_port (n : Number) :
    (n.atLeast 0 && n.atMost Config.limit) = true ↔ Passes n.toValue .port := by
  rw [Passes]
  refine among_iff_of_check (p := fun n => n.atLeast 0 && n.atMost Config.limit)
    (fun n q hq => ?_) (by decide) (by decide) n
  rw [Number.atLeast_of_worth hq, Number.atMost_of_worth hq]
  simp [Config.limit]

theorem passes_bufferSize (n : Number) :
    (n.above 0 && n.atMost Config.limit) = true ↔ Passes n.toValue .bufferSize := by
  rw [Passes]
  refine among_iff_of_check (p := fun n => n.above 0 && n.atMost Config.limit)
    (fun n q hq => ?_) (by decide) (by decide) n
  rw [Number.above_of_worth hq, Number.atMost_of_worth hq]
  simp [Config.limit]

theorem passes_pollTimeout {n : Number} (h : n ≠ .float .nan) :
    n.atMost 0 = false ↔ Passes n.toValue .pollTimeout := by
  rcases n.worth_cases with ⟨q, hq⟩ | ⟨s, rfl⟩ | rfl
  · have hfinite : n.toValue ≠ .float (.infinity false) := fun hn => by
      rw [hn] at hq
      cases hq
    rw [Passes, Value.among_iff hq, Number.atMost_of_worth hq]
    simp [hfinite]
  · cases s with
    | false => exact iff_of_true (by decide) (.inl rfl)
    | true =>
      exact iff_of_false (by decide) (not_or.2 ⟨by simp [Number.toValue], Value.not_among rfl _⟩)
  · exact absurd rfl h

/-- What the check of a setting comes to, which keeps the setting if it passes. -/
inductive Verdict {α : Type} (v : Value) (k : Checked) (kept : α → Value) (r : Except Fault α) :
    Prop
  | passed (passes : k.Passes v) {a : α} (done : r = .ok a) (same : kept a = v)
  | refused (fails : ¬ k.Passes v) {f : Fault} (failed : r = .error f)
    (kind : f.family = k.mistake v)

theorem Verdict.same_of_ok {α : Type} {v : Value} {k : Checked} {kept : α → Value}
    {r : Except Fault α} {a : α} (h : Verdict v k kept r) (hr : r = .ok a) : kept a = v := by
  cases h with
  | passed _ done same =>
    obtain rfl := Except.ok.inj (done.symm.trans hr)
    exact same
  | refused _ failed _ => cases failed.symm.trans hr

theorem verdict_ranged {v : Value} {k : Checked} {relation : String} {p : Number → Bool}
    {complaint : String → Fault} (hp : ∀ n, p n = true ↔ k.Passes n.toValue)
    (hv : k.Passes v → (Number.ofValue? v).isSome)
    (hk : k ≠ .mode) (hcomplaint : ∀ s, (complaint s).family = .wrongValue) :
    Verdict v k (fun n : { n : Number // p n = true } => n.1.toValue) (do
      let n ← Config.comparable relation v
      if h : p n = true then return ⟨n, h⟩
      let s ← v.shown
      throw (complaint s)) := by
  cases hn : Number.ofValue? v with
  | none =>
    simp only [Config.comparable, hn]
    exact .refused (fun h => by simpa [hn] using hv h) rfl (by simp [Fault.family, mistake, hk, hn])
  | some n =>
    obtain rfl := Number.toValue_of_ofValue? hn
    simp only [Config.comparable, hn, bind, Except.bind]
    by_cases h : p n = true
    · rw [dif_pos h]
      exact .passed ((hp n).1 h) rfl rfl
    · rw [dif_neg h]
      have hkind : mistake n.toValue k = .wrongValue := by simp [mistake, hn]
      cases hs : n.toValue.shown with
      | ok s => exact .refused (mt (hp n).2 h) rfl (by rw [hcomplaint, hkind])
      | error f =>
        -- What cannot be shown in a complaint has a wrong value all the same.
        refine .refused (mt (hp n).2 h) rfl ?_
        rw [Value.eq_tooManyDigits_of_shown hs, hkind]
        rfl

theorem isSome_of_among {v : Value} {range : Set ℚ} (h : v.Among range) :
    (Number.ofValue? v).isSome := by
  obtain ⟨q, -, hq⟩ := h
  obtain ⟨n, hn⟩ := Number.exists_of_worth hq
  rw [hn, Option.isSome_some]

theorem verdict_port (v : Value) :
    Verdict v .port (fun n => n.1.toValue) (Config.checkPort v) :=
  verdict_ranged passes_port isSome_of_among (by decide) fun _ => rfl

theorem verdict_bufferSize (v : Value) :
    Verdict v .bufferSize (fun n => n.1.toValue) (Config.checkBufferSize v) :=
  verdict_ranged passes_bufferSize isSome_of_among (by decide) fun _ => rfl

theorem name_of_ofName? {s : String} {m : Mode} (h : Mode.ofName? s = some m) : m.name = s := by
  unfold Mode.ofName? at h
  split at h
  · next hs =>
    cases h
    exact hs.symm
  · split at h
    · next hs =>
      cases h
      exact hs.symm
    · cases h

theorem passes_mode_name (m : Mode) : Passes (.text m.name) .mode := by
  cases m
  · exact .inl rfl
  · exact .inr rfl

theorem verdict_mode (v : Value) :
    Verdict v .mode (fun m => .text m.name) (Config.checkMode v) := by
  have hrefused (hv : ¬ Passes v .mode) :
      Verdict v .mode (fun m : Mode => .text m.name)
        (do let q ← v.quoted; throw (.unknownMode q)) := by
    cases hq : v.quoted with
    | ok q => exact .refused hv rfl rfl
    | error f =>
      refine .refused hv rfl ?_
      rw [Value.eq_tooManyDigits_of_quoted v hq]
      rfl
  unfold Config.checkMode
  split
  · next s =>
    split
    · next m hm =>
      obtain rfl := name_of_ofName? hm
      exact .passed (passes_mode_name m) rfl rfl
    · next hm =>
      refine hrefused fun h => ?_
      rcases h with h | h
      · cases h
        exact absurd hm (by decide)
      · cases h
        exact absurd hm (by decide)
  · next hv =>
    refine hrefused fun h => ?_
    rcases h with h | h
    · exact hv _ h
    · exact hv _ h

theorem verdict_pollTimeout {v : Value} (h : v ≠ .float .nan) :
    Verdict v .pollTimeout (fun n => n.1.toValue) (Config.checkPollTimeout v) := by
  unfold Config.checkPollTimeout
  split
  · next hn =>
    refine .refused (fun hv => ?_) rfl (by simp [Fault.family, mistake, hn])
    rcases hv with rfl | hv
    · cases hn
    · simpa [hn] using isSome_of_among hv
  · next n hn =>
    obtain rfl := Number.toValue_of_ofValue? hn
    have hpasses := passes_pollTimeout fun hnan : n = .float .nan =>
      h (congrArg Number.toValue hnan)
    split
    · next hpos => exact .passed (hpasses.1 hpos) rfl rfl
    · next hpos => exact .refused (mt hpasses.2 hpos) rfl (by simp [Fault.family, mistake, hn])

def run (v : Value) : Checked → Except Fault Unit
  | .port => (Config.checkPort v).map fun _ => ()
  | .bufferSize => (Config.checkBufferSize v).map fun _ => ()
  | .mode => (Config.checkMode v).map fun _ => ()
  | .pollTimeout => (Config.checkPollTimeout v).map fun _ => ()

/-- A nan for the poll timeout, of which nothing is said. -/
def Open (v : Value) (k : Checked) : Prop := k = .pollTimeout ∧ v = .float .nan

theorem Verdict.mapped {α : Type} {v : Value} {k : Checked} {kept : α → Value} {r : Except Fault α}
    (h : Verdict v k kept r) : Verdict v k (fun _ => v) (r.map fun _ => ()) := by
  cases h with
  | passed passes done same =>
    rw [done]
    exact .passed passes rfl rfl
  | refused fails failed kind =>
    rw [failed]
    exact .refused fails rfl kind

theorem verdict_run {v : Value} {k : Checked} (h : ¬ k.Open v) :
    Verdict v k (fun _ => v) (k.run v) := by
  cases k with
  | port => exact (verdict_port v).mapped
  | bufferSize => exact (verdict_bufferSize v).mapped
  | mode => exact (verdict_mode v).mapped
  | pollTimeout => exact (verdict_pollTimeout fun hv => h ⟨rfl, hv⟩).mapped

theorem not_open_of_passes {v : Value} {k : Checked} (h : k.Passes v) : ¬ k.Open v := by
  rintro ⟨rfl, rfl⟩
  rcases h with h | h
  · cases h
  · exact Value.not_among rfl _ h

theorem run_of_passes {v : Value} {k : Checked} (h : k.Passes v) : k.run v = .ok () := by
  cases verdict_run (not_open_of_passes h) with
  | passed _ done _ => exact done
  | refused fails _ _ => exact absurd h fails

theorem forM_eq_ok_iff {check : Checked → Except Fault Unit} :
    ∀ ks : List Checked, forM ks check = .ok () ↔ ∀ k ∈ ks, check k = .ok ()
  | [] => by simp [pure, Except.pure]
  | k :: ks => by
    rw [List.forM_cons, List.forall_mem_cons, ← forM_eq_ok_iff ks]
    cases check k with
    | ok u => exact (and_iff_right rfl).symm
    | error f => exact iff_of_false nofun fun h => nomatch h.1

theorem forM_eq_error (check : Checked → Except Fault Unit) {k : Checked} {f : Fault}
    {after : List Checked} (hk : check k = .error f) :
    ∀ before : List Checked, (∀ j ∈ before, check j = .ok ()) →
      forM (before ++ k :: after) check = .error f
  | [], _ => by
    rw [List.nil_append, List.forM_cons, hk]
    rfl
  | j :: before, h => by
    rw [List.forall_mem_cons] at h
    rw [List.cons_append, List.forM_cons, h.1]
    exact forM_eq_error check hk before h.2

end Checked

namespace Config

def given (c : Config) : Settings :=
  ⟨c.host, c.port.toValue, c.bufferSize.toValue, .text c.mode.name, c.echo, c.verbose, c.backlog,
    c.pollTimeout.toValue, c.sendTimeout⟩

def checks (s : Settings) : Except Fault Unit := forM Checked.order fun k => k.run (k.value s)

theorem map_ofSettings (s : Settings) : (ofSettings s).map (fun _ => ()) = checks s := by
  simp only [ofSettings, checks, Checked.order, Checked.run, Checked.value, List.forM_cons,
    List.forM_nil]
  cases checkPort s.port with
  | error f => rfl
  | ok port =>
    cases checkBufferSize s.bufferSize with
    | error f => rfl
    | ok size =>
      cases checkMode s.mode with
      | error f => rfl
      | ok mode =>
        cases checkPollTimeout s.pollTimeout with
        | error f => rfl
        | ok timeout => rfl

theorem ofSettings_ok_iff (s : Settings) : (∃ c, ofSettings s = .ok c) ↔ checks s = .ok () := by
  rw [← map_ofSettings]
  cases ofSettings s <;> simp [Except.map]

theorem ofSettings_error_iff (s : Settings) (f : Fault) :
    ofSettings s = .error f ↔ checks s = .error f := by
  rw [← map_ofSettings]
  cases ofSettings s <;> simp [Except.map]

theorem toValue_checkPollTimeout {v : Value} {n : { n : Number // n.atMost 0 = false }}
    (h : checkPollTimeout v = .ok n) : n.1.toValue = v := by
  by_cases hv : v = .float .nan
  · subst hv
    rw [← Except.ok.inj h]
    rfl
  · exact (Checked.verdict_pollTimeout hv).same_of_ok h

theorem exists_of_passes {s : Settings} (h : ∀ k : Checked, k.Passes (k.value s)) :
    ∃ c, ofSettings s = .ok c :=
  (ofSettings_ok_iff s).2 ((Checked.forM_eq_ok_iff _).2 fun k _ => Checked.run_of_passes (h k))

theorem eq_ok_of_bind {α β : Type} {r : Except Fault α} {g : α → Except Fault β} {b : β}
    (h : r >>= g = .ok b) : ∃ a, r = .ok a ∧ g a = .ok b := by
  cases r with
  | ok a => exact ⟨a, rfl, h⟩
  | error f => cases h

theorem given_of_ofSettings {s : Settings} {c : Config} (h : ofSettings s = .ok c) :
    c.given = s := by
  obtain ⟨port, hport, h⟩ := eq_ok_of_bind h
  obtain ⟨size, hsize, h⟩ := eq_ok_of_bind h
  obtain ⟨mode, hmode, h⟩ := eq_ok_of_bind h
  obtain ⟨timeout, htimeout, h⟩ := eq_ok_of_bind h
  rw [← Except.ok.inj h, given, (Checked.verdict_port _).same_of_ok hport,
    (Checked.verdict_bufferSize _).same_of_ok hsize, (Checked.verdict_mode _).same_of_ok hmode,
    toValue_checkPollTimeout htimeout]

theorem ofConfig_of_length {c : Config} {k : Nat} (h : Context.bufferLength c.bufferSize = .ok k) :
    ∃ d, Context.ofConfig c = .ok d ∧ d.room = k := by
  rw [Context.ofConfig, h]
  exact ⟨_, rfl, List.length_replicate⟩

/-- What holds of a configuration that was made of settings. Its receive buffer has as many bytes as
a whole number for its size says; other numbers are no count of bytes. -/
structure MadeOf (s : Settings) (c : Config) : Prop where
  given : c.given = s
  passes (k : Checked) : ¬ k.Open (k.value s) → k.Passes (k.value s)
  whole (n : Int) : s.bufferSize.int? = some n →
    0 < n ∧ n ≤ 65535 ∧ ∃ d, Context.ofConfig c = .ok d ∧ d.room = n.toNat
  other : s.bufferSize.int? = none →
    Context.ofConfig c = .error (.notBytes s.bufferSize.kindName "bytearray")

theorem mem_order (k : Checked) : k ∈ Checked.order := by
  cases k <;> decide

theorem madeOf_of_ofSettings {s : Settings} {c : Config} (h : ofSettings s = .ok c) :
    MadeOf s c := by
  obtain rfl := given_of_ofSettings h
  have hwithin := (Checked.passes_bufferSize c.bufferSize).1 c.bufferSize_within
  refine ⟨rfl, fun k hk => ?_, fun n hn => ?_, fun hn => ?_⟩
  · have hrun := (Checked.forM_eq_ok_iff _).1 ((ofSettings_ok_iff _).1 ⟨c, h⟩) k (mem_order k)
    cases Checked.verdict_run hk with
    | passed passes _ _ => exact passes
    | refused _ failed _ => cases failed.symm.trans hrun
  · have hlength : Context.bufferLength c.bufferSize = .ok n.toNat ∧
        c.bufferSize.toValue.worth? = some (n : ℚ) := by
      change c.bufferSize.toValue.int? = some n at hn
      match c.bufferSize, hn with
      | .bool _, rfl | .int _, rfl => exact ⟨rfl, rfl⟩
    rw [Checked.Passes, Value.among_iff hlength.2] at hwithin
    exact ⟨by exact_mod_cast hwithin.1, by exact_mod_cast hwithin.2, ofConfig_of_length hlength.1⟩
  · have hlength : Context.bufferLength c.bufferSize =
        .error (.notBytes c.bufferSize.toValue.kindName "bytearray") := by
      change c.bufferSize.toValue.int? = none at hn
      match c.bufferSize, hn with
      | .float _, _ => rfl
    rw [Context.ofConfig, hlength]
    rfl

/-- Settings that pass all checks make a configuration, and only such. Of those that do not pass,
the first in the order of the checks decides the kind of mistake. -/
theorem settings_checked (s : Settings) :
    (∀ c, ofSettings s = .ok c → MadeOf s c) ∧
    ((∀ k : Checked, k.Passes (k.value s)) → ∃ c, ofSettings s = .ok c) ∧
    ∀ before k after, Checked.order = before ++ k :: after →
      (∀ j ∈ before, j.Passes (j.value s)) → ¬ k.Passes (k.value s) → ¬ k.Open (k.value s) →
      ∃ f, ofSettings s = .error f ∧ f.family = k.mistake (k.value s) := by
  refine ⟨fun c => madeOf_of_ofSettings, exists_of_passes, fun before k after hs hb hk ho => ?_⟩
  cases Checked.verdict_run ho with
  | passed passes _ _ => exact absurd passes hk
  | refused _ failed kind =>
    refine ⟨_, (ofSettings_error_iff s _).2 ?_, kind⟩
    rw [checks, hs]
    exact Checked.forM_eq_error (fun k => k.run (k.value s)) failed before
      fun j hj => Checked.run_of_passes (hb j hj)

example : ofSettings Settings.usual = .ok .usual := rfl

def roomy : Settings :=
  { Settings.usual with port := .bool true, bufferSize := .int 65535, pollTimeout := .int 1 }

theorem settings_checked_roomy :
    (∃ c d, ofSettings roomy = .ok c ∧ Context.ofConfig c = .ok d ∧ d.room = 65535) ∧
    ∃ f, ofSettings { roomy with bufferSize := .int 0, mode := .int 3 } = .error f ∧
      f.family = .wrongValue := by
  have hport : Checked.Passes (.bool true) .port := ⟨1, by simp, rfl⟩
  have hpasses (k : Checked) : k.Passes (k.value roomy) := by
    cases k with
    | port => exact hport
    | bufferSize => exact ⟨65535, by simp, rfl⟩
    | mode => exact .inl rfl
    | pollTimeout => exact .inr ⟨1, by simp, rfl⟩
  constructor
  · obtain ⟨c, hc⟩ := (settings_checked roomy).2.1 hpasses
    obtain ⟨-, -, d, hd, hroom⟩ := ((settings_checked roomy).1 c hc).whole 65535 rfl
    exact ⟨c, d, hc, hd, hroom⟩
  · refine (settings_checked _).2.2 [.port] .bufferSize [.mode, .pollTimeout] rfl ?_ ?_ ?_
    · intro j hj
      obtain rfl := List.mem_singleton.1 hj
      exact hport
    · rintro ⟨q, hq, hworth⟩
      obtain rfl := Option.some.inj hworth
      simp at hq
    · simp [Checked.Open]

/-- A text is no port even if it reads as one, and a size that is not whole passes the check but is
no count of bytes. -/
theorem checks_miss_fractions :
    (∃ f, ofSettings { Settings.usual with port := .text "80" } = .error f ∧
      f.family = .wrongType) ∧
    ∃ c, ofSettings { Settings.usual with
        port := .float (.finite false 161 (-1))
        bufferSize := .float (.finite false 3 (-1)) } = .ok c ∧
      Context.ofConfig c = .error (.notBytes "float" "bytearray") :=
  ⟨⟨_, rfl, rfl⟩, _, rfl, rfl⟩

end Config

end SctpProbe
