import JsonSchema.Number.Text

set_option autoImplicit false

namespace JsonSchema

abbrev Fits64 (value : Int) : Prop := -9223372036854775808 ≤ value ∧ value < 18446744073709551616

inductive Number where
  | integer (value : Int) (fits : Fits64 value)
  | float (value : Binary64)
deriving DecidableEq

namespace Number

def ofInt? (value : Int) : Option Number :=
  if h : Fits64 value then some (.integer value h) else none

-- The exact value, in units of `2 ^ (-1074)`.
def units : Number → Int
  | .integer value _ => value * Binary64.unitsPerOne
  | .float x => x.units

def isIntegral : Number → Bool
  | .integer _ _ => true
  | .float x => x.isWhole

-- The integer that a number is, if it is one. A float is taken for one below `2 ^ 64` only.
def integral? : Number → Option Int
  | .integer value _ => some value
  | .float x =>
    if x.isWhole && x.magnitude < Binary64.unitsPerOne <<< 64 then
      some (x.units.tdiv Binary64.unitsPerOne)
    else none

-- Two floats are compared as they are. Once an integer is involved, both numbers have to be the
-- same integer, so that none is rounded.
def sameValue : Number → Number → Bool
  | .float x, .float y => x.units == y.units
  | a, b =>
    match a.integral?, b.integral? with
    | some i, some j => i == j
    | _, _ => false

theorem units_integer_eq_iff (i j : Int) :
    i * Binary64.unitsPerOne = j * Binary64.unitsPerOne ↔ i = j :=
  Int.mul_eq_mul_right_iff (Int.natCast_ne_zero.2 (Nat.ne_of_gt Binary64.unitsPerOne_pos))

theorem isIntegral_iff (n : Number) :
    n.isIntegral = true ↔ (Binary64.unitsPerOne : Int) ∣ n.units := by
  cases n with
  | integer value fits => exact iff_of_true rfl (Int.dvd_mul_left ..)
  | float x => exact x.isWhole_iff

-- The bound on floats leaves none out that could be the same as an integer.
theorem integral?_eq_some_iff (n : Number) {i : Int} (fits : Fits64 i) :
    n.integral? = some i ↔ n.units = i * Binary64.unitsPerOne := by
  cases n with
  | integer value fits' => rw [integral?, Option.some_inj, units, units_integer_eq_iff]
  | float x =>
    have positive := Binary64.unitsPerOne_pos
    rw [integral?, units]
    constructor
    · intro found
      split at found
      next taken =>
        rw [Bool.and_eq_true, x.isWhole_iff] at taken
        cases found
        exact (Int.tdiv_mul_cancel taken.1).symm
      next => cases found
    · intro same
      have whole : x.isWhole = true := x.isWhole_iff.2 (same ▸ Int.dvd_mul_left ..)
      have small : x.magnitude < Binary64.unitsPerOne <<< 64 := by
        rw [← x.natAbs_units, same, Int.natAbs_mul, Int.natAbs_natCast, Nat.shiftLeft_eq,
          Nat.mul_comm]
        refine Nat.mul_lt_mul_of_pos_left ?_ positive
        unfold Fits64 at fits
        omega
      rw [if_pos (by simp [whole, small]), same,
        Int.mul_tdiv_cancel _ (Int.natCast_ne_zero.2 (Nat.ne_of_gt positive))]

theorem sameValue_iff_integral? {a b : Number}
    (mixed : ∀ x y, a = .float x → b = .float y → False) :
    a.sameValue b = true ↔ ∃ i, a.integral? = some i ∧ b.integral? = some i := by
  fun_cases sameValue a b with
  | case1 x y => exact (mixed x y rfl rfl).elim
  | case2 _ _ _ i j found found' =>
    rw [beq_iff_eq, found, found']
    simp [eq_comm]
  | case3 a b _ missing =>
    simp only [Bool.false_eq_true, false_iff]
    rintro ⟨i, found, found'⟩
    exact missing i i found found'

theorem sameValue_iff (a b : Number) : a.sameValue b = true ↔ a.units = b.units := by
  cases a with
  | integer i fits =>
    calc (Number.integer i fits).sameValue b = true
        ↔ ∃ k, (Number.integer i fits).integral? = some k ∧ b.integral? = some k :=
          sameValue_iff_integral? (by simp)
      _ ↔ b.integral? = some i := by simp [integral?]
      _ ↔ b.units = i * Binary64.unitsPerOne := integral?_eq_some_iff b fits
      _ ↔ (Number.integer i fits).units = b.units := eq_comm
  | float x =>
    cases b with
    | integer j fits =>
      calc (Number.float x).sameValue (.integer j fits) = true
          ↔ ∃ k, (Number.float x).integral? = some k ∧
              (Number.integer j fits).integral? = some k := sameValue_iff_integral? (by simp)
        _ ↔ (Number.float x).integral? = some j := by simp [integral?]
        _ ↔ (Number.float x).units = (Number.integer j fits).units :=
          integral?_eq_some_iff _ fits
    | float y => rw [sameValue, beq_iff_eq, units, units]

theorem isIntegral_eq_of_sameValue {a b : Number} (h : a.sameValue b = true) :
    a.isIntegral = b.isIntegral := by
  rw [sameValue_iff] at h
  rw [Bool.eq_iff_iff, isIntegral_iff, isIntegral_iff, h]

def toBinary64 : Number → Binary64
  | .integer value _ => (Binary64.ofRatio? (value < 0) value.natAbs 1).getD (.zero false)
  | .float x => x

-- The literal as a natural number: floats do not count, even whole ones.
def count? : Number → Option Nat
  | .integer value _ => value.toNat?
  | .float _ => none

def write : Number → String
  | .integer value _ => toString value
  | .float x => NumberStyle.document.write x

-- How far from a whole number a binary64 quotient may lie: the number nearest to `10 ^ (-9)`, in
-- units of `2 ^ (-1074)`.
def tolerance : Nat := 4835703278458517 <<< 992

example : (Binary64.ofDecimal? false ⟨1, -9⟩).map (·.magnitude) = some tolerance := by
  decide +kernel

-- Whether a number is a multiple of a positive divisor. Two integers are divided exactly. Once a
-- float is involved, the quotient is rounded to a binary64 number and has to lie close to a whole
-- one; a quotient past the largest finite number does not.
def isMultiple (n divisor : Number) : Bool :=
  match n, divisor with
  | .integer a _, .integer d _ => a % d == 0
  | n, divisor =>
    let x := n.toBinary64
    let d := divisor.toBinary64
    match Binary64.ofRatio? (x.negative != d.negative) x.magnitude d.magnitude with
    | none => false
    | some quotient =>
      let rest := quotient.magnitude % Binary64.unitsPerOne
      rest ≤ tolerance || Binary64.unitsPerOne - rest ≤ tolerance

end Number

end JsonSchema
