import SctpProbe.Value.Basic
set_option autoImplicit false

namespace SctpProbe

theorem Text.writable_of_lt {n : Nat} (h : n < Nat.pow 2 128) : Writable n := by
  have hpow (k : Nat) (hk : 128 ≤ k) : Nat.pow 2 128 ≤ Nat.pow 10 k :=
    Nat.le_trans (Nat.pow_le_pow_left (by decide) 128) (Nat.pow_le_pow_right (by decide) hk)
  unfold Writable
  exact Nat.lt_of_lt_of_le h (hpow digitLimit (by decide))

namespace Value

theorem intText_of_writable {n : Int} (h : Text.Writable n) :
    intText n = .ok (String.ofList (Text.ofInt n)) := by
  rw [intText, if_pos h]

theorem shown_int (n : Int) : (Value.int n).shown = intText n := by
  simp only [shown, quoted]

theorem eq_tooManyDigits_of_intText {n : Int} {f : Fault} (h : intText n = .error f) :
    f = .tooManyDigits := by
  by_cases hw : Text.Writable n
  · rw [intText_of_writable hw] at h
    cases h
  · rw [intText, if_neg hw] at h
    exact (Except.error.inj h).symm

theorem eq_error_of_bind {α β : Type} {r : Except Fault α} {g : α → Except Fault β} {f : Fault}
    (h : r >>= g = .error f) : r = .error f ∨ ∃ a, g a = .error f := by
  cases r with
  | ok a => exact .inr ⟨a, h⟩
  | error e => exact .inl (congrArg Except.error (Except.error.inj h))

/-- What is put around a written form does not go wrong. -/
theorem eq_error_of_around {α β : Type} {r : Except Fault α} {g : α → β} {f : Fault}
    (h : (do let a ← r; return g a) = Except.error f) : r = .error f := by
  rcases eq_error_of_bind h with h | ⟨a, h⟩
  · exact h
  · cases h

mutual

theorem eq_tooManyDigits_of_quoted {f : Fault} :
    ∀ v : Value, v.quoted = .error f → f = .tooManyDigits
  | .int _ => fun h => eq_tooManyDigits_of_intText (by rwa [quoted] at h)
  | .tuple [v] => fun h => eq_tooManyDigits_of_quoted v (eq_error_of_around (by rwa [quoted] at h))
  | .tuple (v :: w :: vs) => fun h =>
    eq_tooManyDigits_of_quotedItems (v :: w :: vs)
      (eq_error_of_around (by simpa only [quoted] using h))
  | .list vs => fun h =>
    eq_tooManyDigits_of_quotedItems vs (eq_error_of_around (by rwa [quoted] at h))
  | .mapping es => fun h =>
    eq_tooManyDigits_of_quotedEntries es (eq_error_of_around (by rwa [quoted] at h))
  | .nothing | .bool _ | .float _ | .text _ | .bytes _ | .tuple [] => fun h => by
    simp [quoted, quotedItems, bind, Except.bind, pure, Except.pure] at h

theorem eq_tooManyDigits_of_quotedItems {f : Fault} :
    ∀ vs : List Value, quotedItems vs = .error f → f = .tooManyDigits
  | [] => fun h => by simp [quotedItems] at h
  | v :: vs => fun h => by
    rw [quotedItems] at h
    rcases eq_error_of_bind h with h | ⟨s, h⟩
    · exact eq_tooManyDigits_of_quoted v h
    · exact eq_tooManyDigits_of_quotedItems vs (eq_error_of_around h)

theorem eq_tooManyDigits_of_quotedEntries {f : Fault} :
    ∀ es : List (String × Value), quotedEntries es = .error f → f = .tooManyDigits
  | [] => fun h => by simp [quotedEntries] at h
  | (_, v) :: es => fun h => by
    rw [quotedEntries] at h
    rcases eq_error_of_bind h with h | ⟨s, h⟩
    · exact eq_tooManyDigits_of_quoted v h
    · exact eq_tooManyDigits_of_quotedEntries es (eq_error_of_around h)

end

theorem eq_tooManyDigits_of_shown {v : Value} {f : Fault} (h : v.shown = .error f) :
    f = .tooManyDigits := by
  unfold shown at h
  split at h
  · cases h
  · exact eq_tooManyDigits_of_quoted _ h

end Value

end SctpProbe
