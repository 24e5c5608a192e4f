import JsonSchema.Number.Basic
import Mathlib.Algebra.Group.Nat.Defs

set_option autoImplicit false

namespace JsonSchema

namespace Binary64

theorem ofParts?_eq_some {negative : Bool} {significand shift : Nat} {x : Binary64}
    (h : ofParts? negative significand shift = some x) :
    x.negative = negative ∧ x.significand = significand ∧ x.shift = shift := by
  unfold ofParts? at h
  split at h
  · cases h
    exact ⟨rfl, rfl, rfl⟩
  · cases h

section RoundDiv

variable {num num' den : Nat}

theorem roundDiv_cases (num den : Nat) :
    (roundDiv num den = num / den ∧ 2 * (num % den) ≤ den) ∨
      (roundDiv num den = num / den + 1 ∧ den ≤ 2 * (num % den)) := by
  simp only [roundDiv]
  split
  · omega
  · split
    · rcases Nat.mod_two_eq_zero_or_one (num / den) with even | odd
      · rw [even]
        omega
      · rw [odd]
        omega
    · omega

theorem roundDiv_mono (le : num ≤ num') : roundDiv num den ≤ roundDiv num' den := by
  have quotients : num / den ≤ num' / den := Nat.div_le_div_right le
  rcases Nat.eq_or_lt_of_le quotients with same | less
  · have split := Nat.div_add_mod num den
    have split' := Nat.div_add_mod num' den
    rw [← same] at split'
    have rests : num % den ≤ num' % den := by omega
    simp only [roundDiv, ← same]
    split
    · split <;> try split
      all_goals omega
    · split <;> split <;> try split
      all_goals omega
  · have high := roundDiv_le num den
    have low := div_le_roundDiv num' den
    omega

theorem two_mul_roundDiv (num : Nat) (positive : 0 < den) :
    2 * num ≤ 2 * (roundDiv num den * den) + den ∧
      2 * (roundDiv num den * den) ≤ 2 * num + den := by
  have split := Nat.div_add_mod num den
  rw [Nat.mul_comm] at split
  have rest := Nat.mod_lt num positive
  rcases roundDiv_cases num den with ⟨down, half⟩ | ⟨up, half⟩
  · rw [down]
    omega
  · rw [up, Nat.add_mul]
    omega

end RoundDiv

def nearest (num den : Nat) : Nat :=
  roundDiv num (den <<< ((num / den).log2 - 52)) <<< ((num / den).log2 - 52)

theorem nearest_eq (num den : Nat) : nearest num den =
    roundDiv num (den <<< ((num / den).log2 - 52)) * 2 ^ ((num / den).log2 - 52) :=
  Nat.shiftLeft_eq ..

theorem ofRatio?_eq_some {negative : Bool} {num den : Nat} {x : Binary64}
    (h : ofRatio? negative num den = some x) :
    x.negative = negative ∧ x.magnitude = nearest (num * unitsPerOne) den := by
  simp only [ofRatio?] at h
  split at h
  next carried =>
    obtain ⟨sign, significand, shift⟩ := ofParts?_eq_some h
    refine ⟨sign, ?_⟩
    rw [magnitude, significand, shift, nearest, carried, Nat.shiftLeft_succ_inside]
    rfl
  next =>
    obtain ⟨sign, significand, shift⟩ := ofParts?_eq_some h
    exact ⟨sign, by rw [magnitude, significand, shift, nearest]⟩

theorem log2_magnitude (x : Binary64) : x.magnitude.log2 - 52 = x.shift := by
  have bound : x.significand < 2 ^ 53 := x.significand_lt
  rw [magnitude, Nat.shiftLeft_eq]
  rcases x.normal with zero | normal
  · rw [zero, Nat.pow_zero, Nat.mul_one]
    by_cases nothing : x.significand = 0
    · rw [nothing, Nat.log2_zero]
    · have := (Nat.log2_lt nothing).2 bound
      omega
  · have least : 2 ^ 52 ≤ x.significand := normal
    have positive : 0 < x.significand * 2 ^ x.shift := Nat.mul_pos (by omega) (Nat.two_pow_pos _)
    have leading : (x.significand * 2 ^ x.shift).log2 = 52 + x.shift := by
      rw [Nat.log2_eq_iff (Nat.ne_of_gt positive), Nat.pow_add, Nat.add_right_comm, Nat.pow_add]
      constructor
      · exact Nat.mul_le_mul_right _ least
      · exact Nat.mul_lt_mul_of_pos_right bound (Nat.two_pow_pos _)
    omega

section Nearest

variable {num num' den : Nat}

theorem nearest_magnitude (x : Binary64) (positive : 0 < den) :
    nearest (x.magnitude * den) den = x.magnitude := by
  have exact : x.magnitude * den = x.significand * (den <<< x.shift) := by
    rw [magnitude, Nat.shiftLeft_eq, Nat.shiftLeft_eq, Nat.mul_assoc, Nat.mul_comm (2 ^ _)]
  have shifted : 0 < den <<< x.shift := by
    rw [Nat.shiftLeft_eq]
    exact Nat.mul_pos positive (Nat.two_pow_pos _)
  rw [nearest, Nat.mul_div_cancel _ positive, log2_magnitude, exact, roundDiv_mul _ _ shifted,
    magnitude]

theorem le_div_shift (num den : Nat) (cut : (num / den).log2 - 52 ≠ 0) :
    2 ^ 52 ≤ num / (den <<< ((num / den).log2 - 52)) := by
  have leading := (leading_bits (num / den)).2.resolve_left cut
  rwa [Nat.shiftRight_eq_div_pow, Nat.div_div_eq_div_mul, ← Nat.shiftLeft_eq,
    Nat.one_shiftLeft] at leading

theorem roundDiv_shift_le (num den : Nat) :
    roundDiv num (den <<< ((num / den).log2 - 52)) ≤ 2 ^ 53 := by
  have leading := (leading_bits (num / den)).1
  rw [Nat.shiftRight_eq_div_pow, Nat.div_div_eq_div_mul, ← Nat.shiftLeft_eq,
    Nat.one_shiftLeft] at leading
  have high := roundDiv_le num (den <<< ((num / den).log2 - 52))
  omega

theorem log2_mono {m n : Nat} (le : m ≤ n) : m.log2 ≤ n.log2 := by
  rcases Nat.eq_zero_or_pos m with rfl | positive
  · rw [Nat.log2_zero]
    exact Nat.zero_le _
  · exact (Nat.le_log2 (by omega)).2 (Nat.le_trans (Nat.log2_self_le (by omega)) le)

/-- Rounding keeps the order. Numbers with the same leading bit are cut at the same place, and
otherwise the larger one starts where the smaller one ends. -/
theorem nearest_mono (le : num ≤ num') : nearest num den ≤ nearest num' den := by
  have shifts : (num / den).log2 - 52 ≤ (num' / den).log2 - 52 :=
    Nat.sub_le_sub_right (log2_mono (Nat.div_le_div_right le)) 52
  rw [nearest_eq, nearest_eq]
  rcases Nat.eq_or_lt_of_le shifts with same | less
  · rw [same]
    exact Nat.mul_le_mul_right _ (roundDiv_mono le)
  · have low := le_div_shift num' den (by omega)
    calc roundDiv num _ * 2 ^ ((num / den).log2 - 52)
        ≤ 2 ^ 53 * 2 ^ ((num / den).log2 - 52) :=
          Nat.mul_le_mul_right _ (roundDiv_shift_le num den)
      _ = 2 ^ 52 * 2 ^ ((num / den).log2 - 52 + 1) := by
          rw [← Nat.pow_add, ← Nat.pow_add, Nat.add_comm _ 1, ← Nat.add_assoc]
      _ ≤ 2 ^ 52 * 2 ^ ((num' / den).log2 - 52) :=
          Nat.mul_le_mul_left _ (Nat.pow_le_pow_right (by decide) less)
      _ ≤ roundDiv num' _ * 2 ^ ((num' / den).log2 - 52) :=
          Nat.mul_le_mul_right _ (Nat.le_trans low (div_le_roundDiv ..))

theorem nearest_error (positive : 0 < den) (bits : 2 ^ 52 * den ≤ num) :
    2 ^ 53 * num ≤ 2 ^ 53 * (nearest num den * den) + num ∧
      2 ^ 53 * (nearest num den * den) ≤ 2 ^ 53 * num + num := by
  have shifted : 0 < den <<< ((num / den).log2 - 52) := by
    rw [Nat.shiftLeft_eq]
    exact Nat.mul_pos positive (Nat.two_pow_pos _)
  have unit : 2 ^ 52 * (den <<< ((num / den).log2 - 52)) ≤ num := by
    by_cases whole : (num / den).log2 - 52 = 0
    · rwa [whole, Nat.shiftLeft_zero]
    · exact (Nat.le_div_iff_mul_le shifted).1 (le_div_shift num den whole)
  have scaled : nearest num den * den =
      roundDiv num (den <<< ((num / den).log2 - 52)) * (den <<< ((num / den).log2 - 52)) := by
    rw [nearest_eq, Nat.shiftLeft_eq, Nat.mul_assoc, Nat.mul_comm (2 ^ _)]
  have half := two_mul_roundDiv num shifted
  rw [scaled]
  omega

end Nearest

theorem exists_magnitude_eq {n : Nat} (small : n ≤ 2 ^ 53) :
    ∃ x : Binary64, x.magnitude = n * unitsPerOne := by
  rcases Nat.eq_zero_or_pos n with rfl | positive
  · exact ⟨.zero false, by rw [magnitude, zero, Nat.zero_shiftLeft, Nat.zero_mul]⟩
  rcases Nat.eq_or_lt_of_le small with rfl | less
  · refine ⟨⟨false, 1 <<< 52, 1075, by decide, by decide, .inr (by decide)⟩, ?_⟩
    decide +kernel
  -- The leading bit goes to the first place of the significand.
  have nonzero : n ≠ 0 := Nat.ne_of_gt positive
  have leading : n.log2 < 53 := (Nat.log2_lt nonzero).2 less
  have bound := Nat.mul_lt_mul_of_pos_right (Nat.lt_log2_self (n := n))
    (Nat.two_pow_pos (52 - n.log2))
  have least := Nat.mul_le_mul_right (2 ^ (52 - n.log2)) (Nat.log2_self_le nonzero)
  have all : n.log2 + 1 + (52 - n.log2) = 53 := by omega
  have behind : n.log2 + (52 - n.log2) = 52 := by omega
  rw [← Nat.pow_add, all, ← Nat.shiftLeft_eq] at bound
  rw [← Nat.pow_add, behind, ← Nat.shiftLeft_eq] at least
  have together : 52 - n.log2 + (1074 - (52 - n.log2)) = places := by
    unfold places
    omega
  refine ⟨⟨false, n <<< (52 - n.log2), 1074 - (52 - n.log2), bound, by omega, .inr least⟩, ?_⟩
  rw [magnitude, ← Nat.shiftLeft_add, together, unitsPerOne, Nat.shiftLeft_eq, Nat.one_shiftLeft]

theorem nearest_of_small {n : Nat} (small : n ≤ 2 ^ 53) :
    nearest (n * unitsPerOne) 1 = n * unitsPerOne := by
  obtain ⟨x, same⟩ := exists_magnitude_eq small
  have kept := nearest_magnitude x Nat.one_pos
  rwa [Nat.mul_one, same] at kept

def nearestUnits (u : Int) : Int :=
  if u < 0 then -(nearest u.natAbs 1 : Int) else nearest u.natAbs 1

theorem nearestUnits_of_kept {u : Int} (kept : nearest u.natAbs 1 = u.natAbs) :
    nearestUnits u = u := by
  rw [nearestUnits, kept]
  split <;> omega

theorem nearestUnits_units (x : Binary64) : nearestUnits x.units = x.units := by
  have kept := nearest_magnitude x Nat.one_pos
  rw [Nat.mul_one, ← natAbs_units] at kept
  exact nearestUnits_of_kept kept

theorem nearestUnits_mono {u v : Int} (le : u ≤ v) : nearestUnits u ≤ nearestUnits v := by
  unfold nearestUnits
  split
  · split
    · have larger : nearest v.natAbs 1 ≤ nearest u.natAbs 1 := nearest_mono (by omega)
      omega
    · omega
  · have larger : nearest u.natAbs 1 ≤ nearest v.natAbs 1 := nearest_mono (by omega)
    split <;> omega

end Binary64

namespace Number

open Binary64 (nearestUnits)

theorem units_toBinary64 (n : Number) : n.toBinary64.units = nearestUnits n.units := by
  cases n with
  | float x => exact (Binary64.nearestUnits_units x).symm
  | integer value fits =>
    have small : value.natAbs < 1 <<< 200 := by
      have : 18446744073709551616 ≤ 1 <<< 200 := by decide
      unfold Fits64 at fits
      omega
    obtain ⟨x, found⟩ := Option.isSome_iff_exists.1
      (Binary64.isSome_ofRatio? (value < 0) value.natAbs 1 (by decide) small)
    obtain ⟨sign, magnitude⟩ := Binary64.ofRatio?_eq_some found
    have below : (Number.integer value fits).units < 0 ↔ value < 0 := by
      have one : (0 : Int) < Binary64.unitsPerOne := Int.natCast_pos.2 Binary64.unitsPerOne_pos
      have scaled := Int.mul_lt_mul_right (b := value) (c := 0) one
      rwa [Int.zero_mul] at scaled
    rw [toBinary64, found, Option.getD_some, Binary64.units, sign, magnitude, nearestUnits, units,
      Int.natAbs_mul, Int.natAbs_natCast]
    simp only [decide_eq_true_eq, ← below, units]

theorem units_toBinary64_congr {a b : Number} (same : a.sameValue b = true) :
    a.toBinary64.units = b.toBinary64.units := by
  rw [units_toBinary64, units_toBinary64, (sameValue_iff a b).1 same]

theorem units_toBinary64_mono {a b : Number} (le : a.units ≤ b.units) :
    a.toBinary64.units ≤ b.toBinary64.units := by
  rw [units_toBinary64, units_toBinary64]
  exact Binary64.nearestUnits_mono le

theorem units_toBinary64_pos_iff (n : Number) : 0 < n.toBinary64.units ↔ 0 < n.units := by
  rw [units_toBinary64]
  constructor
  · intro positive
    refine Int.not_le.1 fun most => ?_
    have rounded := Binary64.nearestUnits_mono most
    have zero : nearestUnits 0 = 0 := by decide
    omega
  · intro positive
    have rounded := Binary64.nearestUnits_mono (Int.add_one_le_of_lt positive)
    have one : nearestUnits (0 + 1) = 1 := by decide
    omega

theorem units_toBinary64_of_small {n : Number} {i : Int} (whole : n.units = i * Binary64.unitsPerOne)
    (small : i.natAbs ≤ 2 ^ 53) : n.toBinary64.units = n.units := by
  have kept := Binary64.nearest_of_small small
  rw [← Int.natAbs_natCast Binary64.unitsPerOne, ← Int.natAbs_mul, ← whole] at kept
  rw [units_toBinary64]
  exact Binary64.nearestUnits_of_kept kept

end Number

end JsonSchema
