set_option autoImplicit false

/-!
Finite numbers of the binary64 format, held exactly. Every such number is a whole multiple of
`2 ^ (-1074)`, so it is compared, divided and rounded here in whole numbers of that unit.
-/

namespace JsonSchema

/-- The finite number `± significand * 2 ^ (shift - 1074)`. Each number other than zero has one
representation; zero has two, which differ in sign. -/
structure Binary64 where
  negative : Bool
  significand : Nat
  shift : Nat
  significand_lt : significand < 1 <<< 53
  shift_le : shift ≤ 2045
  normal : shift = 0 ∨ 1 <<< 52 ≤ significand
deriving DecidableEq

namespace Binary64

def places : Nat := 1074

def unitsPerOne : Nat := 1 <<< places

theorem unitsPerOne_pos : 0 < unitsPerOne := by
  rw [unitsPerOne, Nat.one_shiftLeft]
  exact Nat.two_pow_pos places

def magnitude (x : Binary64) : Nat := x.significand <<< x.shift

def units (x : Binary64) : Int := if x.negative then -(x.magnitude : Int) else x.magnitude

def isWhole (x : Binary64) : Bool := x.magnitude % unitsPerOne == 0

def zero (negative : Bool) : Binary64 :=
  ⟨negative, 0, 0, by decide, by decide, .inl rfl⟩

def neg (x : Binary64) : Binary64 := { x with negative := !x.negative }

@[simp] theorem units_zero (negative : Bool) : (zero negative).units = 0 := by
  cases negative <;> simp [units, magnitude, zero]

@[simp] theorem units_neg (x : Binary64) : x.neg.units = -x.units := by
  cases h : x.negative <;> simp [units, magnitude, neg, h]

@[simp] theorem natAbs_units (x : Binary64) : x.units.natAbs = x.magnitude := by
  unfold units; split <;> simp

theorem isWhole_iff (x : Binary64) : x.isWhole = true ↔ (unitsPerOne : Int) ∣ x.units := by
  rw [isWhole, beq_iff_eq, ← Nat.dvd_iff_mod_eq_zero, ← natAbs_units, Int.ofNat_dvd_left]

def roundDiv (num den : Nat) : Nat :=
  let quotient := num / den
  let rest := num % den
  if 2 * rest < den then quotient
  else if 2 * rest = den then quotient + quotient % 2
  else quotient + 1

theorem div_le_roundDiv (num den : Nat) : num / den ≤ roundDiv num den := by
  simp only [roundDiv]; split <;> try split
  all_goals omega

theorem roundDiv_le (num den : Nat) : roundDiv num den ≤ num / den + 1 := by
  simp only [roundDiv]; split <;> try split
  all_goals omega

theorem roundDiv_mul (q den : Nat) (h : 0 < den) : roundDiv (q * den) den = q := by
  simp [roundDiv, Nat.mul_div_cancel q h, h]

def ofParts? (negative : Bool) (significand shift : Nat) : Option Binary64 :=
  if h : significand < 1 <<< 53 ∧ shift ≤ 2045 ∧ (shift = 0 ∨ 1 <<< 52 ≤ significand) then
    some ⟨negative, significand, shift, h.1, h.2.1, h.2.2⟩
  else none

-- The number nearest to `± num / den`, a tie going to the even significand; none where that lies
-- past the largest finite number.
def ofRatio? (negative : Bool) (num den : Nat) : Option Binary64 :=
  let scaled := num * unitsPerOne
  let shift := (scaled / den).log2 - 52
  let significand := roundDiv scaled (den <<< shift)
  if significand = 1 <<< 53 then ofParts? negative (1 <<< 52) (shift + 1)
  else ofParts? negative significand shift

theorem leading_bits (q : Nat) :
    q >>> (q.log2 - 52) < 1 <<< 53 ∧
      (q.log2 - 52 = 0 ∨ 1 <<< 52 ≤ q >>> (q.log2 - 52)) := by
  rcases Nat.eq_zero_or_pos q with rfl | hq
  · decide
  have hq : q ≠ 0 := by omega
  rw [Nat.shiftRight_eq_div_pow]
  constructor
  · rw [Nat.div_lt_iff_lt_mul (Nat.two_pow_pos _), ← Nat.shiftLeft_eq, ← Nat.shiftLeft_add,
      Nat.one_shiftLeft]
    exact (Nat.log2_lt hq).1 (by omega)
  · rcases Nat.eq_zero_or_pos (q.log2 - 52) with h | h
    · exact .inl h
    · right
      have hlog : 52 + (q.log2 - 52) = q.log2 := by omega
      rw [Nat.le_div_iff_mul_le (Nat.two_pow_pos _), ← Nat.shiftLeft_eq, ← Nat.shiftLeft_add, hlog,
        Nat.one_shiftLeft]
      exact Nat.log2_self_le hq

theorem isSome_ofRatio? (negative : Bool) (num den : Nat) (hd : 0 < den)
    (h : num < den <<< 200) : (ofRatio? negative num den).isSome := by
  have hplaces : places = 1074 := rfl
  have hlog : (num * unitsPerOne / den).log2 < 200 + places := by
    by_cases h0 : num * unitsPerOne / den = 0
    · rw [h0, Nat.log2_zero]; omega
    · refine (Nat.log2_lt h0).2 ((Nat.div_lt_iff_lt_mul hd).2 ?_)
      refine Nat.lt_of_lt_of_eq (Nat.mul_lt_mul_of_pos_right h unitsPerOne_pos) ?_
      rw [Nat.shiftLeft_eq, unitsPerOne, Nat.one_shiftLeft, Nat.mul_assoc, ← Nat.pow_add,
        Nat.mul_comm]
  obtain ⟨hlt, hnormal⟩ := leading_bits (num * unitsPerOne / den)
  rw [Nat.shiftRight_eq_div_pow, Nat.div_div_eq_div_mul, ← Nat.shiftLeft_eq] at hlt hnormal
  have hlow := div_le_roundDiv (num * unitsPerOne)
    (den <<< ((num * unitsPerOne / den).log2 - 52))
  have hhigh := roundDiv_le (num * unitsPerOne)
    (den <<< ((num * unitsPerOne / den).log2 - 52))
  simp only [ofRatio?, ofParts?]
  split
  · rw [dif_pos ⟨by decide, by omega, .inr (Nat.le_refl _)⟩]; rfl
  · rw [dif_pos ⟨by omega, by omega, by omega⟩]; rfl

end Binary64

end JsonSchema
