import JsonSchema.Number.Binary64

set_option autoImplicit false

namespace JsonSchema

structure Decimal where
  digits : Nat
  exponent : Int
deriving DecidableEq

inductive Tie where
  | toEven
  | up
deriving DecidableEq

namespace Binary64

-- The number nearest to a decimal; none past the largest finite number. A decimal that is far out
-- of range is settled by its size, so that its power of ten is never built.
def ofDecimal? (negative : Bool) (d : Decimal) : Option Binary64 :=
  if d.digits = 0 then some (zero negative)
  else if 0 ≤ d.exponent then
    if 310 ≤ d.exponent then none
    else ofRatio? negative (d.digits * Nat.pow 10 d.exponent.toNat) 1
  else if (d.digits.log2 : Int) + 1 + 3 * d.exponent < -1080 then some (zero negative)
  else ofRatio? negative d.digits (Nat.pow 10 (-d.exponent).toNat)

def inUnitsOf (x : Binary64) (power : Int) : Nat × Nat :=
  (x.magnitude * Nat.pow 10 (-power).toNat, unitsPerOne * Nat.pow 10 power.toNat)

-- The whole number of `10 ^ power` nearest to the absolute value, if one of its two neighbours on
-- that grid is so near that it reads back as this number. The distances are counted in quarters of
-- a unit: the gap above is `2 ^ shift` units, and the gap below a power of two is half as wide.
def nearestOnGrid? (x : Binary64) (tie : Tie) (power : Int) : Option Nat :=
  let (num, den) := x.inUnitsOf power
  let below := num / den
  let rest := num % den
  let gap := Nat.pow 10 (-power).toNat <<< x.shift
  let gapBelow := if x.significand = 1 <<< 52 ∧ 0 < x.shift then gap else 2 * gap
  let within (distance reach : Nat) : Bool :=
    if x.significand % 2 = 0 then 4 * distance ≤ reach else 4 * distance < reach
  let belowFits := within rest gapBelow
  let aboveFits := within (den - rest) (2 * gap)
  if belowFits && aboveFits then
    if 2 * rest < den then some below
    else if den < 2 * rest then some (below + 1)
    else match tie with
      | .toEven => some (below + below % 2)
      | .up => some (below + 1)
  else if belowFits then some below
  else if aboveFits then some (below + 1)
  else none

def searchGrids (x : Binary64) (tie : Tie) : Nat → Int → Decimal
  | 0, power => ⟨(x.inUnitsOf power).1 / (x.inUnitsOf power).2, power⟩
  | grids + 1, power =>
    match x.nearestOnGrid? tie power with
    | some digits => ⟨digits, power⟩
    | none => searchGrids x tie grids (power - 1)

-- A power of ten that is not below the absolute value, or at most a hundredfold of it.
def leadingPower (x : Binary64) : Int :=
  ((x.magnitude.log2 : Int) - 1074) * 30103 / 100000 + 1

-- The shortest decimal that reads back as the absolute value, and of those the nearest. Seventeen
-- digits are always enough.
def shortest (x : Binary64) (tie : Tie) : Decimal :=
  if x.significand = 0 then ⟨0, 0⟩ else x.searchGrids tie 20 x.leadingPower

example : (ofDecimal? false ⟨1, -1⟩).map (shortest · .toEven) = some ⟨1, -1⟩ := by decide +kernel
example : (ofDecimal? false ⟨5, -324⟩).map (shortest · .toEven) = some ⟨5, -324⟩ := by decide +kernel
example : (ofDecimal? false ⟨17976931348623157, 292⟩).map (shortest · .up)
    = some ⟨17976931348623157, 292⟩ := by decide +kernel

end Binary64

end JsonSchema
