import JsonSchema.Proofs.Number.Rounding
import JsonSchema.Proofs.Number.Value
import JsonSchema.Proofs.Visit.Union
import Mathlib.Algebra.Order.Field.Basic

set_option autoImplicit false

namespace JsonSchema

namespace Binary64

theorem map_magnitude_ofRatio? (negative : Bool) (num den : Nat) :
    (ofRatio? negative num den).map magnitude = (ofRatio? false num den).map magnitude := by
  have parts (significand shift : Nat) : (ofParts? negative significand shift).map magnitude =
      (ofParts? false significand shift).map magnitude := by
    unfold ofParts?
    split <;> rfl
  unfold ofRatio?
  simp only [apply_ite (Option.map magnitude), parts]

end Binary64

theorem exists_near_iff {m unit bound : Nat} (positive : 0 < unit) :
    (∃ k : ℤ, |(m : ℤ) - k * unit| ≤ bound) ↔ m % unit ≤ bound ∨ unit - m % unit ≤ bound := by
  have split : ((m / unit : ℕ) : ℤ) * unit + (m % unit : ℕ) = m := by
    exact_mod_cast Nat.div_add_mod' m unit
  have rest := Nat.mod_lt m positive
  generalize m / unit = floor, m % unit = part at split rest
  simp only [abs_le]
  constructor
  · intro near
    obtain ⟨k, low, high⟩ := near
    by_cases below : k ≤ floor
    · have behind := Int.mul_nonneg (Int.sub_nonneg_of_le below) (Int.natCast_nonneg unit)
      rw [Int.sub_mul] at behind
      omega
    · have ahead := Int.mul_nonneg (Int.sub_nonneg_of_le (Int.not_le.1 below))
        (Int.natCast_nonneg unit)
      rw [Int.sub_mul, Int.add_mul] at ahead
      omega
  · intro close
    rcases close with below | above
    · exact ⟨floor, by omega, by omega⟩
    · refine ⟨floor + 1, ?_⟩
      rw [Int.add_mul]
      omega

namespace Binary64

-- A quotient `m` that is off by half a unit at most, and by a whole number of units up to less than
-- another half, leaves nothing over.
theorem dvd_of_near {a d m unit slack : Nat} {k : ℤ}
    (low : 2 * (a * unit) ≤ 2 * (m * d) + unit) (high : 2 * (m * d) ≤ 2 * (a * unit) + unit)
    (fine : 2 * (slack * d) < unit) (close : |(m : ℤ) - k * unit| ≤ slack) : d ∣ a := by
  have scaled : |((m * d : Nat) : ℤ) - k * d * unit| ≤ (slack * d : Nat) := by
    have apart : ((m * d : Nat) : ℤ) - k * d * unit = (m - k * unit) * d := by
      rw [Int.natCast_mul, Int.sub_mul, Int.mul_right_comm]
    rw [apart, abs_mul, Int.abs_natCast, Int.natCast_mul]
    exact Int.mul_le_mul_of_nonneg_right close (Int.natCast_nonneg d)
  rw [abs_le] at scaled
  have left : (a - k * d) * unit = (a * unit : Nat) - k * d * unit := by
    rw [Int.sub_mul, Int.natCast_mul]
  have below : (a - k * d) * unit < 1 * unit := by omega
  have above : -1 * unit < (a - k * d) * unit := by omega
  have below := Int.lt_of_mul_lt_mul_right below (Int.natCast_nonneg unit)
  have above := Int.lt_of_mul_lt_mul_right above (Int.natCast_nonneg unit)
  refine Int.natCast_dvd_natCast.1 ⟨k, ?_⟩
  rw [Int.mul_comm]
  omega

theorem nearest_quotient_error {a d unit : Nat} (one : 0 < unit) (positive : 0 < d)
    (bits : 2 ^ 52 * d ≤ a * unit) (small : a ≤ 2 ^ 52) :
    2 * (a * unit) ≤ 2 * (nearest (a * unit * unit) (d * unit) * d) + unit ∧
      2 * (nearest (a * unit * unit) (d * unit) * d) ≤ 2 * (a * unit) + unit := by
  have bits' : 2 ^ 52 * (d * unit) ≤ a * unit * unit := by
    rw [← Nat.mul_assoc]
    exact Nat.mul_le_mul_right _ bits
  obtain ⟨low, high⟩ := nearest_error (Nat.mul_pos positive one) bits'
  generalize nearest (a * unit * unit) (d * unit) = m at low high
  have size : a * unit ≤ 2 ^ 52 * unit := Nat.mul_le_mul_right _ small
  have low' : 2 ^ 53 * (a * unit) ≤ 2 ^ 53 * (m * d) + a * unit := by
    refine Nat.le_of_mul_le_mul_right ?_ one
    rwa [Nat.add_mul, Nat.mul_assoc, Nat.mul_assoc (2 ^ 53), Nat.mul_assoc m]
  have high' : 2 ^ 53 * (m * d) ≤ 2 ^ 53 * (a * unit) + a * unit := by
    refine Nat.le_of_mul_le_mul_right ?_ one
    rwa [Nat.add_mul, Nat.mul_assoc, Nat.mul_assoc (2 ^ 53), Nat.mul_assoc m]
  omega

theorem near_whole_iff {a d : Nat} (small : a ≤ 2 ^ 52) (positive : 0 < d)
    (small' : d < 500000000) :
    (∃ k : ℤ, |((nearest (a * unitsPerOne * unitsPerOne) (d * unitsPerOne) : Nat) : ℤ) -
      k * unitsPerOne| ≤ Number.tolerance) ↔ d ∣ a := by
  have one : 0 < unitsPerOne := unitsPerOne_pos
  have wide : 2 ^ 52 * 500000000 ≤ unitsPerOne := by decide +kernel
  have fine : 2 * (Number.tolerance * 499999999) < unitsPerOne := by decide +kernel
  have kept {k : Nat} (bound : k ≤ 2 ^ 53) :
      nearest (k * unitsPerOne * (d * unitsPerOne)) (d * unitsPerOne) = k * unitsPerOne := by
    obtain ⟨x, same⟩ := exists_magnitude_eq bound
    rw [← same]
    exact nearest_magnitude x (Nat.mul_pos positive one)
  generalize unitsPerOne = unit, Number.tolerance = slack at one wide fine kept
  constructor
  · intro near
    obtain ⟨k, close⟩ := near
    rcases Nat.eq_zero_or_pos a with rfl | some
    · exact Nat.dvd_zero d
    have bits : 2 ^ 52 * d ≤ a * unit := by
      calc 2 ^ 52 * d ≤ unit := by omega
        _ ≤ a * unit := Nat.le_mul_of_pos_left _ some
    obtain ⟨low, high⟩ := nearest_quotient_error one positive bits small
    have finer : 2 * (slack * d) < unit := by
      have bound := Nat.mul_le_mul_left slack (Nat.le_of_lt_succ small')
      omega
    exact dvd_of_near low high finer close
  · intro whole
    obtain ⟨k, rfl⟩ := whole
    have bound : k ≤ d * k := Nat.le_mul_of_pos_left k positive
    have numerator : d * k * unit * unit = k * unit * (d * unit) := by ac_rfl
    refine ⟨k, ?_⟩
    rw [numerator, kept (by omega)]
    simp

end Binary64

namespace Number

def isLiteral : Number → Bool
  | .integer _ _ => true
  | .float _ => false

def Multiple (n divisor : Number) : Prop := ∃ k : ℤ, n.value = k * divisor.value

/-- The quotient of the two nearest binary64 numbers, rounded to a binary64 number again, is no
further from a whole number than the tolerance. Signs are left out. -/
def NearMultiple (n divisor : Number) : Prop :=
  ∃ quotient, Binary64.ofRatio? false n.toBinary64.magnitude divisor.toBinary64.magnitude =
      some quotient ∧
    ∃ k : ℤ, |quotient.value - k| ≤ tolerance / Binary64.unitsPerOne

theorem abs_value_sub_le_iff {q : Binary64} (above : q.negative = false) (k : ℤ) :
    |q.value - k| ≤ tolerance / Binary64.unitsPerOne ↔
      |(q.magnitude : ℤ) - k * Binary64.unitsPerOne| ≤ tolerance := by
  have positive : (0 : ℚ) < Binary64.unitsPerOne := Nat.cast_pos.2 Binary64.unitsPerOne_pos
  have units : q.units = q.magnitude := by rw [Binary64.units, above]; rfl
  have apart : q.value - k =
      ((q.magnitude - k * Binary64.unitsPerOne : ℤ) : ℚ) / Binary64.unitsPerOne := by
    rw [Binary64.value_eq_div, units, Int.cast_sub, Int.cast_mul, Int.cast_natCast, Int.cast_natCast,
      sub_div, mul_div_cancel_right₀ _ Binary64.unitsPerOne_ne_zero]
  rw [apart, abs_div, abs_of_pos positive, div_le_div_iff_of_pos_right positive]
  exact_mod_cast Iff.rfl

theorem nearMultiple_iff (n divisor : Number) : n.NearMultiple divisor ↔
    ∃ m, (Binary64.ofRatio? false n.toBinary64.magnitude divisor.toBinary64.magnitude).map
        Binary64.magnitude = some m ∧
      (m % Binary64.unitsPerOne ≤ tolerance ∨
        Binary64.unitsPerOne - m % Binary64.unitsPerOne ≤ tolerance) := by
  unfold NearMultiple
  simp only [← exists_near_iff Binary64.unitsPerOne_pos, Option.map_eq_some_iff]
  constructor
  · intro near
    obtain ⟨q, found, k, close⟩ := near
    have above := (Binary64.ofRatio?_eq_some found).1
    exact ⟨_, ⟨q, found, rfl⟩, k, (abs_value_sub_le_iff above k).1 close⟩
  · intro near
    obtain ⟨_, ⟨q, found, rfl⟩, k, close⟩ := near
    have above := (Binary64.ofRatio?_eq_some found).1
    exact ⟨q, found, k, (abs_value_sub_le_iff above k).2 close⟩

theorem multiple_iff_dvd {n divisor : Number} {i j : ℤ} (whole : n.value = i)
    (whole' : divisor.value = j) : n.Multiple divisor ↔ j ∣ i := by
  rw [Multiple, whole, whole']
  refine exists_congr fun k => ?_
  rw [mul_comm]
  exact_mod_cast Iff.rfl

theorem isLiteral_and_eq_false {n divisor : Number}
    (float : ∀ a fits d fits', n = .integer a fits → divisor = .integer d fits' → False) :
    (n.isLiteral && divisor.isLiteral) = false := by
  cases n with
  | float x => rfl
  | integer a fits =>
    cases divisor with
    | float y => rfl
    | integer d fits' => exact (float a fits d fits' rfl rfl).elim

theorem isMultiple_iff (n divisor : Number) : n.isMultiple divisor = true ↔
    if n.isLiteral && divisor.isLiteral then n.Multiple divisor else n.NearMultiple divisor := by
  fun_cases isMultiple n divisor with
  | case1 a fits d fits' =>
    have exact : Multiple (.integer a fits) (.integer d fits') ↔ d ∣ a := multiple_iff_dvd rfl rfl
    simp only [isLiteral, Bool.and_self, if_true, exact, beq_iff_eq, Int.dvd_iff_emod_eq_zero]
  | case2 n divisor float x d missing =>
    have unsigned := Binary64.map_magnitude_ofRatio? (x.negative != d.negative) x.magnitude
      d.magnitude
    rw [missing] at unsigned
    rw [isLiteral_and_eq_false float, nearMultiple_iff, ← unsigned]
    simp
  | case3 n divisor float x d quotient found rest =>
    have unsigned := Binary64.map_magnitude_ofRatio? (x.negative != d.negative) x.magnitude
      d.magnitude
    rw [found] at unsigned
    rw [isLiteral_and_eq_false float, nearMultiple_iff, ← unsigned]
    simp [rest]

theorem magnitude_toBinary64_of_value_eq {n : Number} {i : ℤ} (whole : n.value = i)
    (small : i.natAbs ≤ 2 ^ 53) : n.toBinary64.magnitude = i.natAbs * Binary64.unitsPerOne := by
  rw [value_eq_int_iff] at whole
  rw [← Binary64.natAbs_units, units_toBinary64_of_small whole small, whole, Int.natAbs_mul,
    Int.natAbs_natCast]

theorem nearMultiple_iff_multiple {n divisor : Number} {i j : ℤ} (whole : n.value = i)
    (whole' : divisor.value = j) (small : i.natAbs ≤ 2 ^ 52) (positive : 0 < j)
    (small' : j < 500000000) : n.NearMultiple divisor ↔ n.Multiple divisor := by
  have one := Binary64.unitsPerOne_pos
  have room : i.natAbs * Binary64.unitsPerOne < (j.natAbs * Binary64.unitsPerOne) <<< 200 := by
    rw [Nat.shiftLeft_eq, Nat.mul_right_comm]
    refine Nat.mul_lt_mul_of_pos_right ?_ one
    calc i.natAbs < 2 ^ 200 := Nat.lt_of_le_of_lt small (by decide)
      _ ≤ j.natAbs * 2 ^ 200 := Nat.le_mul_of_pos_left _ (by omega)
  obtain ⟨q, found⟩ := Option.isSome_iff_exists.1
    (Binary64.isSome_ofRatio? false _ _ (Nat.mul_pos (by omega) one) room)
  have rounded := (Binary64.ofRatio?_eq_some found).2
  rw [nearMultiple_iff, magnitude_toBinary64_of_value_eq whole (by omega),
    magnitude_toBinary64_of_value_eq whole' (by omega), found, multiple_iff_dvd whole whole',
    ← Int.natAbs_dvd_natAbs, ← Binary64.near_whole_iff small (by omega) (by omega), ← rounded,
    exists_near_iff one]
  simp

theorem exists_value_eq_of_isLiteral {n : Number} (literal : n.isLiteral = true) :
    ∃ i : ℤ, n.value = i := by
  cases n with
  | integer i fits => exact ⟨i, rfl⟩
  | float x => cases literal

section Same

variable {a b d e : Number} (same : a.value = b.value) (same' : d.value = e.value)
include same same'

theorem multiple_congr : a.Multiple d ↔ b.Multiple e := by
  rw [Multiple, Multiple, same, same']

theorem nearMultiple_congr : a.NearMultiple d ↔ b.NearMultiple e := by
  have magnitude {m n : Number} (same : m.value = n.value) :
      m.toBinary64.magnitude = n.toBinary64.magnitude := by
    rw [← Binary64.natAbs_units, ← Binary64.natAbs_units,
      units_toBinary64_congr ((sameValue_iff_value_eq m n).2 same)]
  rw [NearMultiple, NearMultiple, magnitude same, magnitude same']

end Same

end Number

namespace Json

def divisorSchema (divisor : Number) : Json := .object [("divisibleBy", .number divisor)]

variable {d : Number}

theorem member?_divisorSchema {name : String} (other : name ≠ "divisibleBy") :
    (divisorSchema d).member? name = none := by
  have different : (name == "divisibleBy") = false := by simpa using other
  simp [divisorSchema, List.lookup_cons, different]

theorem allowedKinds_divisorSchema (k : Kind) : (divisorSchema d).allowedKinds k := by
  rw [allowedKinds, Kinds.without_iff_of_empty (not_disallowedKinds_of_absent rfl), declaredKinds]
  exact .inl (.inl rfl)

theorem grantedKinds_divisorSchema (k : Kind) : (divisorSchema d).grantedKinds k := by
  rw [grantedKinds, Kinds.without_iff_of_empty (not_disallowedKinds_of_absent rfl)]
  exact .inl rfl

end Json

section

variable [PatternEngine]

namespace Json

variable {d : Number}

theorem wellFormed_divisorSchema (positive : 0 < d.units) : WellFormed (divisorSchema d) := by
  have absent {keyword : String} (other : keyword ≠ "divisibleBy") (form : Json → Prop) :
      (divisorSchema d).Holds keyword form := by
    intro v declared
    rw [member?_divisorSchema other] at declared
    cases declared
  have others {keywords : List String} (unlisted : "divisibleBy" ∉ keywords) (form : Json → Prop) :
      ∀ keyword ∈ keywords, (divisorSchema d).Holds keyword form :=
    fun keyword listed => absent (fun same => unlisted (same ▸ listed)) form
  refine .intro ?_ fun position sub inside => ?_
  · exact {
      object := rfl
      types := others (by decide) _
      kinds := ⟨.null, allowedKinds_divisorSchema _⟩
      enumeration := absent (by decide) _
      limits := others (by decide) _
      divisor := by
        intro v declared
        cases declared
        exact ⟨d, rfl, positive⟩
      flags := others (by decide) _
      counts := others (by decide) _
      pattern := absent (by decide) _
      items := absent (by decide) _
      additional := others (by decide) _
      properties := absent (by decide) _ }
  · cases inside with
    | alternative declared | disallowed declared | items declared | item declared
    | additionalItems declared | property declared | additionalProperties declared => cases declared

theorem sat_divisorSchema_iff (n : Number) :
    Sat (divisorSchema d) (.number n) ↔ n.isMultiple d = true := by
  rw [Sat]
  constructor
  · intro sat
    obtain ⟨_, _, _, fits, _⟩ := sat
    exact NumberFits.divisor fits d rfl
  · intro multiple
    refine ⟨.inl (allowedKinds_divisorSchema _), .inl (.inl (grantedKinds_divisorSchema _)),
      ?enumeration, ?fits, ?inside⟩
    case enumeration =>
      intro values declared
      cases declared
    case fits =>
      exact {
        minimum := fun _ declared => by cases declared
        maximum := fun _ declared => by cases declared
        divisor := fun e declared => by
          cases declared
          exact multiple }
    case inside =>
      intro step w member
      cases member

end Json

namespace Schema

open Json (divisorSchema)

theorem accepts_divisorSchema_iff {n d : Number} (positive : 0 < d.value) {o : Options}
    (structural : o.structural = true) : accepts o (divisorSchema d) (.number n) = true ↔
      if n.isLiteral && d.isLiteral then n.Multiple d else n.NearMultiple d := by
  have formed := Json.wellFormed_divisorSchema (d.value_pos_iff.1 positive)
  obtain ⟨s, compiled⟩ := wellFormed_iff.1 formed
  rw [← Number.isMultiple_iff, ← Json.sat_divisorSchema_iff, compiled.accepts_iff]
  exact compiled.visit_eq_nil_iff_sat structural _ .root (Nat.zero_le _)

/-- Equal numbers get the same verdict from equal divisors, unless one pair is written in integers,
the other one is not, and the rounded quotient tells something else than the exact one. That does
not happen as long as the numbers are small. -/
theorem accepts_multiples {a b d e : Number} (same : (Json.number a).equals (.number b) = true)
    (same' : (Json.number d).equals (.number e) = true) (positive : 0 < d.value) {o : Options}
    (structural : o.structural = true) :
    (accepts o (divisorSchema d) (.number a) = true ↔
      if a.isLiteral && d.isLiteral then a.Multiple d else a.NearMultiple d) ∧
    (accepts o (divisorSchema d) (.number a) = accepts o (divisorSchema e) (.number b) ↔
      (a.isLiteral && d.isLiteral) = (b.isLiteral && e.isLiteral) ∨
        (a.Multiple d ↔ a.NearMultiple d)) ∧
    (|a.value| ≤ 2 ^ 52 → d.value < 500000000 →
      accepts o (divisorSchema d) (.number a) = accepts o (divisorSchema e) (.number b)) := by
  have values : a.value = b.value := (Number.sameValue_iff_value_eq a b).1 same
  have values' : d.value = e.value := (Number.sameValue_iff_value_eq d e).1 same'
  have accepted := accepts_divisorSchema_iff (n := a) positive structural
  have accepted' : accepts o (divisorSchema e) (.number b) = true ↔
      if b.isLiteral && e.isLiteral then a.Multiple d else a.NearMultiple d := by
    rw [Number.multiple_congr values values', Number.nearMultiple_congr values values']
    exact accepts_divisorSchema_iff (values' ▸ positive) structural
  have agree : accepts o (divisorSchema d) (.number a) = accepts o (divisorSchema e) (.number b) ↔
      (a.isLiteral && d.isLiteral) = (b.isLiteral && e.isLiteral) ∨
        (a.Multiple d ↔ a.NearMultiple d) := by
    rw [Bool.eq_iff_iff, accepted, accepted']
    cases a.isLiteral && d.isLiteral <;> cases b.isLiteral && e.isLiteral <;> simp [iff_comm]
  refine ⟨accepted, agree, fun small small' => agree.2 ?_⟩
  by_cases written : (a.isLiteral && d.isLiteral) = (b.isLiteral && e.isLiteral)
  · exact .inl written
  -- One of the two pairs is written in integers, so the values are whole.
  have whole : (∃ i : ℤ, a.value = i) ∧ ∃ j : ℤ, d.value = j := by
    have either : (a.isLiteral && d.isLiteral) = true ∨ (b.isLiteral && e.isLiteral) = true := by
      revert written
      cases a.isLiteral && d.isLiteral <;> cases b.isLiteral && e.isLiteral <;> simp
    rw [Bool.and_eq_true, Bool.and_eq_true] at either
    rcases either with literal | literal
    · exact literal.imp Number.exists_value_eq_of_isLiteral Number.exists_value_eq_of_isLiteral
    · rw [values, values']
      exact literal.imp Number.exists_value_eq_of_isLiteral Number.exists_value_eq_of_isLiteral
  obtain ⟨⟨i, left⟩, j, right⟩ := whole
  rw [right] at positive small'
  have bound : i.natAbs ≤ 2 ^ 52 := by
    rw [left, ← Int.cast_abs, Int.abs_eq_natAbs] at small
    exact_mod_cast small
  exact .inr (Number.nearMultiple_iff_multiple left right bound (by exact_mod_cast positive)
    (by exact_mod_cast small')).symm

end Schema

end

namespace Schema

open Json (divisorSchema)

def three : Number := .integer 3 ⟨by decide, by decide⟩

def floatThree : Number :=
  .float ⟨false, 3 <<< 51, 1023, by decide, by decide, .inr (by decide)⟩

-- Three times an odd number, and one more than a binary64 number can tell.
def largeMultiple : Number := .integer (3 * 3002399751580331) (by decide)

theorem accepts_multiples_three :
    (Json.number largeMultiple).equals (.number largeMultiple) = true ∧
      (Json.number three).equals (.number floatThree) = true ∧ 0 < three.value ∧
      largeMultiple.Multiple three ∧ ¬largeMultiple.NearMultiple three ∧
      |three.value| ≤ 2 ^ 52 ∧ three.value < 500000000 ∧
      accepts .default (divisorSchema three) (.number three) =
        accepts .default (divisorSchema floatThree) (.number floatThree) := by
  have itself : (Json.number largeMultiple).equals (.number largeMultiple) = true := by
    decide +kernel
  have same : (Json.number three).equals (.number floatThree) = true := by decide +kernel
  have positive : 0 < three.value := by decide +kernel
  have small : |three.value| ≤ 2 ^ 52 := by decide +kernel
  have small' : three.value < 500000000 := by decide +kernel
  have passed : accepts .default (divisorSchema three) (.number largeMultiple) = true := by
    decide +kernel
  have refused : accepts .default (divisorSchema floatThree) (.number largeMultiple) = false := by
    decide +kernel
  obtain ⟨accepted, agree, _⟩ := accepts_multiples itself same positive (o := .default) rfl
  have exact : largeMultiple.Multiple three := accepted.1 passed
  rw [passed, refused] at agree
  have apart : ¬largeMultiple.NearMultiple three := by
    intro near
    cases agree.2 (.inr ⟨fun _ => near, fun _ => exact⟩)
  have together := accepts_multiples same same positive (o := .default) rfl
  exact ⟨itself, same, positive, exact, apart, small, small', together.2.2 small small'⟩

-- The same divisor written as a float refuses a multiple, and calls it none.
theorem findings_multiple_refused :
    (Json.number three).equals (.number floatThree) = true ∧
      accepts .default (divisorSchema three) (.number largeMultiple) = true ∧
      findings .default (divisorSchema floatThree) (.number largeMultiple) =
        [⟨.keyword, .root, "number 9007199254740993 is not a multiple of 3.0"⟩] :=
  ⟨by decide +kernel, by decide +kernel, by decide +kernel⟩

end Schema

end JsonSchema
