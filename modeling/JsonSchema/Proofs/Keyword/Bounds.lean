import JsonSchema.Proofs.Compile.Tree
import JsonSchema.Proofs.Number.Rounding
import JsonSchema.Proofs.Number.Value
import JsonSchema.Proofs.Visit.Compose

set_option autoImplicit false

namespace JsonSchema

namespace Number

def RoundsAlike (a b : Number) : Prop := a.toBinary64.units = b.toBinary64.units

instance (a b : Number) : Decidable (a.RoundsAlike b) := inferInstanceAs (Decidable (_ = _))

-- An integer with more bits than a binary64 number is sure to hold.
def Wide (n : Number) : Prop := ∃ value fits, n = .integer value fits ∧ 2 ^ 53 < value.natAbs

theorem units_toBinary64_of_not_wide {n : Number} (narrow : ¬n.Wide) :
    n.toBinary64.units = n.units := by
  cases n with
  | float x => rfl
  | integer value fits =>
    refine units_toBinary64_of_small rfl (Nat.not_lt.1 fun large => ?_)
    exact narrow ⟨value, fits, rfl, large⟩

theorem RoundsAlike.value_eq {a b : Number} (alike : a.RoundsAlike b) (narrow : ¬a.Wide)
    (narrow' : ¬b.Wide) : a.value = b.value := by
  unfold RoundsAlike at alike
  rwa [units_toBinary64_of_not_wide narrow, units_toBinary64_of_not_wide narrow',
    ← value_eq_iff] at alike

theorem units_toBinary64_lt_iff (a b : Number) :
    a.toBinary64.units < b.toBinary64.units ↔ a.value < b.value ∧ ¬a.RoundsAlike b := by
  rw [value_lt_iff, RoundsAlike]
  by_cases less : a.units < b.units
  · have kept := units_toBinary64_mono (Int.le_of_lt less)
    simp only [less, true_and]
    omega
  · have kept := units_toBinary64_mono (Int.not_lt.1 less)
    simp only [less, false_and, iff_false]
    omega

theorem units_toBinary64_le_iff (a b : Number) :
    a.toBinary64.units ≤ b.toBinary64.units ↔ a.value ≤ b.value ∨ a.RoundsAlike b := by
  rw [value_le_iff, RoundsAlike]
  by_cases most : a.units ≤ b.units
  · simp [most, units_toBinary64_mono]
  · have kept := units_toBinary64_mono (Int.le_of_not_le most)
    simp only [most, false_or]
    omega

end Number

namespace Keyword

variable {limit exclusive : Option Json} {bound : Option Bound}

theorem IsBound.eq_none (read : IsBound limit exclusive bound) (absent : limit = none) :
    bound = none := by
  obtain ⟨n, flag, number, _, rfl⟩ := read
  rw [absent] at number
  cases number
  rfl

theorem IsBound.eq_some (read : IsBound limit exclusive bound) {m : Number} {flag : Bool}
    (declared : limit = some (.number m)) (flagged : IsFlag exclusive flag) :
    bound = some ⟨m.toBinary64, flag⟩ := by
  obtain ⟨n, flag', number, flagged', rfl⟩ := read
  rw [declared] at number
  cases number with
  | some formed =>
    cases formed
    rw [Schema.unique_flag flagged' flagged, Option.map_some]

end Keyword

namespace ValueRules

open Number (units_toBinary64_lt_iff units_toBinary64_le_iff)

-- Both limits are tested alike, with the two sides the other way round.
theorem limitMessages_eq (exclusive : Bool) (low high : Number) (reached passed : String) :
    (if exclusive && low.toBinary64.units ≤ high.toBinary64.units then [reached]
      else messageIf (low.toBinary64.units < high.toBinary64.units) passed) =
      if exclusive then messageIf (low.value ≤ high.value ∨ low.RoundsAlike high) reached
      else messageIf (low.value < high.value ∧ ¬low.RoundsAlike high) passed := by
  cases exclusive with
  | false => simp only [Bool.false_and, Bool.false_eq_true, if_false, units_toBinary64_lt_iff]
  | true =>
    simp only [Bool.true_and, decide_eq_true_eq, if_true, ← units_toBinary64_le_iff]
    by_cases touched : low.toBinary64.units ≤ high.toBinary64.units
    · simp [messageIf, touched]
    · have apart : ¬low.toBinary64.units < high.toBinary64.units := by omega
      simp [messageIf, touched, apart]

end ValueRules

section

variable [PatternEngine]

namespace Schema

open Keyword

/-- A limit compares by value, except for numbers that are rounded to the same binary64 number: such
a number never passes the limit and always touches it. A limit has one message at most. -/
theorem messages_of_limits {raw : Json} {s : Schema}
    (compiled : (Node.compile raw).schema? = some s) (n : Number) :
    ∃ low high,
      s.messages (.number n) = low ++ high ++ ValueRules.divisorMessages n s.rules.divisor ∧
      (raw.member? "minimum" = none → low = []) ∧
      (∀ m exclusive, raw.member? "minimum" = some (.number m) →
        IsFlag (raw.member? "exclusiveMinimum") exclusive →
        low =
          if exclusive then
            messageIf (n.value ≤ m.value ∨ n.RoundsAlike m)
              ("number " ++ n.write ++ " is not strictly greater than the required minimum " ++
                NumberStyle.limit.write m.toBinary64)
          else
            messageIf (n.value < m.value ∧ ¬n.RoundsAlike m)
              ("number " ++ n.write ++ " is lower than the required minimum " ++
                NumberStyle.limit.write m.toBinary64)) ∧
      (raw.member? "maximum" = none → high = []) ∧
      (∀ m exclusive, raw.member? "maximum" = some (.number m) →
        IsFlag (raw.member? "exclusiveMaximum") exclusive →
        high =
          if exclusive then
            messageIf (m.value ≤ n.value ∨ m.RoundsAlike n)
              ("number " ++ n.write ++ " is not strictly lower than the required maximum " ++
                NumberStyle.limit.write m.toBinary64)
          else
            messageIf (m.value < n.value ∧ ¬m.RoundsAlike n)
              ("number " ++ n.write ++ " is greater than the required maximum " ++
                NumberStyle.limit.write m.toBinary64)) ∧
      ∀ m : Number, (n.value = m.value → n.RoundsAlike m) ∧
        (n.RoundsAlike m → n.value = m.value ∨ n.Wide ∨ m.Wide) := by
  obtain ⟨_, _, parts⟩ := compiles_iff.1 (compiles_of_schema? compiled)
  refine ⟨ValueRules.minimumMessages n.write n.toBinary64 s.rules.minimum,
    ValueRules.maximumMessages n.write n.toBinary64 s.rules.maximum, rfl, ?_, ?_, ?_, ?_, ?_⟩
  · intro absent
    rw [parts.rules.minimum.eq_none absent, ValueRules.minimumMessages]
  · intro m exclusive declared flagged
    rw [parts.rules.minimum.eq_some declared flagged, ValueRules.minimumMessages]
    apply ValueRules.limitMessages_eq
  · intro absent
    rw [parts.rules.maximum.eq_none absent, ValueRules.maximumMessages]
  · intro m exclusive declared flagged
    rw [parts.rules.maximum.eq_some declared flagged, ValueRules.maximumMessages]
    apply ValueRules.limitMessages_eq
  · intro m
    refine ⟨fun same => ?_, fun alike => ?_⟩
    · exact Number.units_toBinary64_congr ((Number.sameValue_iff_value_eq n m).2 same)
    · by_cases wide : n.Wide ∨ m.Wide
      · exact .inr wide
      · rw [not_or] at wide
        exact .inl (alike.value_eq wide.1 wide.2)

end Schema

end

namespace Schema

open Keyword

def evenLimit : Number := .integer 9007199254740992 (by decide)

def oddNeighbour : Number := .integer 9007199254740993 (by decide)

def aboveLimitSchema : Json :=
  .object [("exclusiveMinimum", .bool true), ("minimum", .number evenLimit)]

theorem messages_of_limits_neighbour :
    ∃ s, (Node.compile aboveLimitSchema).schema? = some s ∧
      aboveLimitSchema.member? "minimum" = some (.number evenLimit) ∧
      IsFlag (aboveLimitSchema.member? "exclusiveMinimum") true ∧
      aboveLimitSchema.member? "maximum" = none ∧
      oddNeighbour.RoundsAlike evenLimit ∧ ¬oddNeighbour.value ≤ evenLimit.value ∧
      oddNeighbour.Wide ∧
      s.messages (.number oddNeighbour) = ["number 9007199254740993 is not strictly greater " ++
        "than the required minimum 9007199254740992"] := by
  obtain ⟨s, compiled, plain⟩ : ∃ s, (Node.compile aboveLimitSchema).schema? = some s ∧
      s.rules.divisor = none := ⟨_, rfl, rfl⟩
  have flagged : IsFlag (aboveLimitSchema.member? "exclusiveMinimum") true := .inl rfl
  have alike : oddNeighbour.RoundsAlike evenLimit := by decide +kernel
  have larger : ¬oddNeighbour.value ≤ evenLimit.value := by
    rw [Number.value_le_iff]
    decide +kernel
  have apart : oddNeighbour.value ≠ evenLimit.value := fun same => larger (le_of_eq same)
  obtain ⟨low, high, all, _, least, unlimited, _, rounded⟩ :=
    messages_of_limits compiled oddNeighbour
  have wide : oddNeighbour.Wide := by
    rcases (rounded evenLimit).2 alike with same | wide | wide
    · exact absurd same apart
    · exact wide
    · obtain ⟨value, fits, same, large⟩ := wide
      cases same
      exact absurd large (by decide)
  refine ⟨s, compiled, rfl, flagged, rfl, alike, larger, wide, ?_⟩
  rw [all, least evenLimit true rfl flagged, unlimited rfl, plain]
  simp only [alike, or_true, decide_true, if_true]
  decide +kernel

-- A larger number is told not to be larger, while the two are different in an enumeration.
theorem findings_neighbour_refused :
    evenLimit.value < oddNeighbour.value ∧
      (Json.number evenLimit).equals (.number oddNeighbour) = false ∧
      findings .default aboveLimitSchema (.number oddNeighbour) =
        [⟨.keyword, .root, "number 9007199254740993 is not strictly greater " ++
          "than the required minimum 9007199254740992"⟩] := by
  rw [Number.value_lt_iff]
  exact ⟨by decide +kernel, by decide +kernel, by decide +kernel⟩

end Schema

end JsonSchema
