set_option autoImplicit false

namespace SctpProbe.Word

def lowFirst : Nat → Nat → List UInt8
  | 0, _ => []
  | width + 1, n => UInt8.ofNat n :: lowFirst width (n / 256)

def ofLowFirst : List UInt8 → Nat
  | [] => 0
  | b :: r => b.toNat + 256 * ofLowFirst r

theorem ofLowFirst_lowFirst {width n : Nat} (h : n < Nat.pow 256 width) :
    ofLowFirst (lowFirst width n) = n := by
  induction width generalizing n with
  | zero =>
    have h1 : n < 1 := h
    simp only [lowFirst, ofLowFirst]
    omega
  | succ w ih =>
    have hm : n < Nat.pow 256 w * 256 := h
    have hd : n / 256 < Nat.pow 256 w := Nat.div_lt_of_lt_mul (by rwa [Nat.mul_comm] at hm)
    simp only [lowFirst, ofLowFirst, ih hd, UInt8.toNat_ofNat']
    omega

theorem lowFirst_ofLowFirst (bs : List UInt8) : lowFirst bs.length (ofLowFirst bs) = bs := by
  induction bs with
  | nil => rfl
  | cons b r ih =>
    have hb : UInt8.ofNat (b.toNat + 256 * ofLowFirst r) = b := by
      apply UInt8.toNat.inj
      have := b.toNat_lt
      simp only [UInt8.toNat_ofNat']
      omega
    have hr : (b.toNat + 256 * ofLowFirst r) / 256 = ofLowFirst r := by
      have := b.toNat_lt
      omega
    simp only [List.length_cons, ofLowFirst, lowFirst, hb, hr, ih]

theorem ofLowFirst_lt (bs : List UInt8) {width : Nat} (h : bs.length ≤ width) :
    ofLowFirst bs < Nat.pow 256 width := by
  induction bs generalizing width with
  | nil => exact Nat.pow_pos (by decide)
  | cons b r ih =>
    cases width with
    | zero => simp at h
    | succ w =>
      have hr : r.length ≤ w := by simpa using h
      have hi := ih hr
      have hb := b.toNat_lt
      have hp : Nat.pow 256 (w + 1) = Nat.pow 256 w * 256 := rfl
      simp only [ofLowFirst]
      omega

def highFirst (width n : Nat) : List UInt8 := (lowFirst width n).reverse

def ofHighFirst (bs : List UInt8) : Nat := ofLowFirst bs.reverse

theorem ofHighFirst_highFirst {width n : Nat} (h : n < Nat.pow 256 width) :
    ofHighFirst (highFirst width n) = n := by
  simp [ofHighFirst, highFirst, ofLowFirst_lowFirst h]

theorem highFirst_ofHighFirst (bs : List UInt8) : highFirst bs.length (ofHighFirst bs) = bs := by
  have h := lowFirst_ofLowFirst bs.reverse
  rw [List.length_reverse] at h
  rw [highFirst, ofHighFirst, h, List.reverse_reverse]

/-- A word of `bits` bits whose highest bit counts negatively. -/
def signed (bits n : Nat) : Int :=
  if n < Nat.pow 2 (bits - 1) then n else (n : Int) - (Nat.pow 2 bits : Nat)

end SctpProbe.Word
