import JsonSchema.Number.Basic
import Mathlib.Algebra.Order.Field.Rat
import Mathlib.Algebra.Order.Ring.Cast

set_option autoImplicit false

namespace JsonSchema

namespace Binary64

def value (x : Binary64) : ℚ :=
  (if x.negative then -1 else 1) * x.significand * 2 ^ ((x.shift : ℤ) - 1074)

theorem unitsPerOne_ne_zero : (unitsPerOne : ℚ) ≠ 0 :=
  Nat.cast_ne_zero.2 (Nat.ne_of_gt unitsPerOne_pos)

theorem value_eq_div (x : Binary64) : x.value = x.units / unitsPerOne := by
  have one : (unitsPerOne : ℚ) = 2 ^ 1074 := by
    rw [unitsPerOne, Nat.one_shiftLeft, Nat.cast_pow, Nat.cast_ofNat]
    rfl
  have magnitude : (x.magnitude : ℚ) / unitsPerOne = x.significand * 2 ^ ((x.shift : ℤ) - 1074) := by
    rw [magnitude, Nat.shiftLeft_eq, Nat.cast_mul, Nat.cast_pow, Nat.cast_ofNat, one,
      zpow_sub₀ two_ne_zero, zpow_natCast, mul_div_assoc]
    rfl
  unfold value units
  cases x.negative with
  | false => simp [magnitude]
  | true => simp [neg_div, magnitude]

end Binary64

namespace Number

def value : Number → ℚ
  | .integer i _ => i
  | .float x => x.value

theorem value_eq_div (n : Number) : n.value = n.units / Binary64.unitsPerOne := by
  cases n with
  | integer i fits =>
    rw [value, units, Int.cast_mul, Int.cast_natCast,
      mul_div_cancel_right₀ _ Binary64.unitsPerOne_ne_zero]
  | float x => exact x.value_eq_div

theorem value_lt_iff (a b : Number) : a.value < b.value ↔ a.units < b.units := by
  have positive : (0 : ℚ) < Binary64.unitsPerOne := Nat.cast_pos.2 Binary64.unitsPerOne_pos
  rw [value_eq_div, value_eq_div, div_lt_div_iff_of_pos_right positive, Int.cast_lt]

theorem value_le_iff (a b : Number) : a.value ≤ b.value ↔ a.units ≤ b.units := by
  rw [← not_lt, value_lt_iff, not_lt]

theorem value_eq_iff (a b : Number) : a.value = b.value ↔ a.units = b.units := by
  rw [le_antisymm_iff, value_le_iff, value_le_iff, le_antisymm_iff]

theorem value_pos_iff (n : Number) : 0 < n.value ↔ 0 < n.units := by
  have positive : (0 : ℚ) < Binary64.unitsPerOne := Nat.cast_pos.2 Binary64.unitsPerOne_pos
  rw [value_eq_div, lt_div_iff₀ positive, zero_mul, Int.cast_pos]

theorem sameValue_iff_value_eq (a b : Number) : a.sameValue b = true ↔ a.value = b.value := by
  rw [sameValue_iff, value_eq_iff]

theorem value_eq_int_iff (n : Number) (i : ℤ) :
    n.value = i ↔ n.units = i * Binary64.unitsPerOne := by
  rw [value_eq_div, div_eq_iff Binary64.unitsPerOne_ne_zero]
  exact_mod_cast Iff.rfl

theorem isIntegral_iff_value (n : Number) : n.isIntegral = true ↔ ∃ i : ℤ, n.value = i := by
  rw [isIntegral_iff]
  refine exists_congr fun i => ?_
  rw [value_eq_int_iff, mul_comm]

end Number

end JsonSchema
