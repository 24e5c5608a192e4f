import JsonSchema.Keyword.Basic
import JsonSchema.Proofs.Document
import JsonSchema.Proofs.Number.Rounding

set_option autoImplicit false

namespace JsonSchema

theorem bind_eq_ok_iff {ε α β : Type} {x : Except ε α} {f : α → Except ε β} {b : β} :
    (x >>= f) = .ok b ↔ ∃ a, x = .ok a ∧ f a = .ok b := by
  cases x <;> simp [bind, Except.bind]

theorem bind_eq_error_iff {ε α β : Type} {x : Except ε α} {f : α → Except ε β} {e : ε} :
    (x >>= f) = .error e ↔ x = .error e ∨ ∃ a, x = .ok a ∧ f a = .error e := by
  cases x <;> simp [bind, Except.bind]

theorem pure_eq_ok_iff {ε α : Type} {a b : α} : (pure a : Except ε α) = .ok b ↔ a = b := by
  simp [pure, Except.pure]

theorem map_eq_ok_iff {ε α β : Type} {x : Except ε α} {f : α → β} {b : β} :
    x.map f = .ok b ↔ ∃ a, x = .ok a ∧ f a = b := by
  cases x <;> simp [Except.map]

theorem map_eq_error_iff {ε α β : Type} {x : Except ε α} {f : α → β} {e : ε} :
    x.map f = .error e ↔ x = .error e := by
  cases x <;> simp [Except.map]

theorem exists_of_rel_some {α β : Type} {form : α → β → Prop} {value : Option α} {b : β}
    (related : Option.Rel form value (some b)) : ∃ v, value = some v ∧ form v b := by
  cases related with
  | some formed => exact ⟨_, rfl, formed⟩

theorem exists_rel_iff {α β : Type} {form : α → β → Prop} {value : Option α} :
    (∃ read, Option.Rel form value read) ↔ ∀ v, value = some v → ∃ b, form v b := by
  cases value with
  | none => exact ⟨nofun, fun _ => ⟨none, .none⟩⟩
  | some v =>
    constructor
    · intro answered w same
      obtain ⟨read, related⟩ := answered
      cases related with
      | some formed =>
        cases same
        exact ⟨_, formed⟩
    · intro formed
      obtain ⟨b, formed⟩ := formed v rfl
      exact ⟨some b, .some formed⟩

namespace Keyword

def IsNumber (v : Json) (n : Number) : Prop := v = .number n

def IsPositive (v : Json) (n : Number) : Prop := v = .number n ∧ 0 < n.units

def IsCount (v : Json) (count : Nat) : Prop := ∃ fits, v = .number (.integer count fits)

def IsArray (v : Json) (values : List Json) : Prop := v = .array values

def IsFlag (value : Option Json) (flag : Bool) : Prop :=
  value = some (.bool flag) ∨ value = none ∧ flag = false

theorem exists_isFlag_iff {value : Option Json} :
    (∃ flag, IsFlag value flag) ↔ ∀ v, value = some v → ∃ flag, v = .bool flag := by
  cases value with
  | none => exact ⟨nofun, fun _ => ⟨false, .inr ⟨rfl, rfl⟩⟩⟩
  | some v => simp [IsFlag]

theorem IsFlag.eq_true_iff {value : Option Json} {flag : Bool} (read : IsFlag value flag) :
    flag = true ↔ value = some (.bool true) := by
  rcases read with declared | ⟨absent, unset⟩
  · simp [declared]
  · simp [absent, unset]

variable {members : Members} {keyword : String}

theorem number?_eq_ok_iff {read : Option Number} :
    number? members keyword = .ok read ↔ Option.Rel IsNumber (members.lookup keyword) read := by
  unfold number?
  cases members.lookup keyword with
  | none => cases read <;> simp
  | some v => cases v <;> cases read <;> simp [IsNumber]

theorem divisor?_eq_ok_iff {read : Option Number} :
    divisor? members keyword = .ok read ↔
      Option.Rel IsPositive (members.lookup keyword) read := by
  unfold divisor?
  simp only [bind_eq_ok_iff, number?_eq_ok_iff]
  generalize members.lookup keyword = value
  constructor
  · intro answered
    obtain ⟨found, related, positive⟩ := answered
    cases related with
    | none =>
      cases positive
      exact .none
    | some formed =>
      dsimp only at positive
      split at positive
      next => cases positive
      next above =>
        cases positive
        refine .some ⟨formed, ?_⟩
        exact (Number.units_toBinary64_pos_iff _).1 (by omega)
  · intro related
    cases related with
    | none => exact ⟨none, .none, rfl⟩
    | some formed =>
      obtain ⟨formed, positive⟩ := formed
      refine ⟨_, .some formed, ?_⟩
      have above := (Number.units_toBinary64_pos_iff _).2 positive
      dsimp only
      rw [if_neg (by omega)]
      rfl

theorem count?_eq_ok_iff {read : Option Nat} :
    count? members keyword = .ok read ↔ Option.Rel IsCount (members.lookup keyword) read := by
  unfold count?
  cases members.lookup keyword with
  | none => cases read <;> simp
  | some v =>
    cases v with
    | number n =>
      cases n with
      | float x => cases read <;> simp [Number.count?, IsCount]
      | integer value fits =>
        cases value with
        | ofNat count =>
          cases read with
          | none => simp [Number.count?, Int.toNat?]
          | some found =>
            simp only [Number.count?, Int.toNat?, Except.ok.injEq, Option.some.injEq,
              Option.rel_some_some, IsCount, Json.number.injEq, Number.integer.injEq]
            constructor
            · intro same
              subst same
              exact ⟨fits, rfl⟩
            · intro counted
              obtain ⟨_, same⟩ := counted
              exact Int.ofNat.inj same
        | negSucc below => cases read <;> simp [Number.count?, Int.toNat?, IsCount]
    | _ => cases read <;> simp [IsCount]

theorem flag_eq_ok_iff {read : Bool} :
    flag members keyword = .ok read ↔ IsFlag (members.lookup keyword) read := by
  unfold flag
  cases members.lookup keyword with
  | none => cases read <;> simp [IsFlag]
  | some v => cases v <;> simp [IsFlag]

theorem enumeration?_eq_ok_iff {read : Option (List Json)} :
    enumeration? members = .ok read ↔ Option.Rel IsArray (members.lookup "enum") read := by
  unfold enumeration?
  cases members.lookup "enum" with
  | none => cases read <;> simp
  | some v => cases v <;> cases read <;> simp [IsArray]

-- A limit and the flag that makes it exclusive stand in two keywords.
def IsBound (limit exclusive : Option Json) (bound : Option Bound) : Prop :=
  ∃ n flag, Option.Rel IsNumber limit n ∧ IsFlag exclusive flag ∧
    bound = n.map fun n => ⟨n.toBinary64, flag⟩

theorem exists_isBound_iff {limit exclusive : Option Json} :
    (∃ bound, IsBound limit exclusive bound) ↔
      (∀ v, limit = some v → ∃ n, IsNumber v n) ∧
        ∀ v, exclusive = some v → ∃ flag, v = .bool flag := by
  rw [← exists_rel_iff, ← exists_isFlag_iff]
  constructor
  · intro answered
    obtain ⟨bound, n, flag, number, flagged, rfl⟩ := answered
    exact ⟨⟨n, number⟩, flag, flagged⟩
  · intro formed
    obtain ⟨⟨n, number⟩, flag, flagged⟩ := formed
    exact ⟨_, n, flag, number, flagged, rfl⟩

variable [PatternEngine]

def IsPattern (v : Json) (pattern : Pattern) : Prop :=
  ∃ source, v = .string source ∧ Pattern.compile source = .ok pattern

theorem pattern?_eq_ok_iff {read : Option Pattern} :
    pattern? members keyword = .ok read ↔ Option.Rel IsPattern (members.lookup keyword) read := by
  unfold pattern?
  cases members.lookup keyword with
  | none => cases read <;> simp
  | some v =>
    cases v with
    | string source =>
      cases compiled : Pattern.compile source <;> cases read <;> simp [IsPattern, compiled]
    | _ => cases read <;> simp [IsPattern]

structure AreRules (schema : Json) (r : ValueRules) : Prop where
  minimum : IsBound (schema.member? "minimum") (schema.member? "exclusiveMinimum") r.minimum
  maximum : IsBound (schema.member? "maximum") (schema.member? "exclusiveMaximum") r.maximum
  divisor : Option.Rel IsPositive (schema.member? "divisibleBy") r.divisor
  minLength : Option.Rel IsCount (schema.member? "minLength") r.minLength
  maxLength : Option.Rel IsCount (schema.member? "maxLength") r.maxLength
  pattern : Option.Rel IsPattern (schema.member? "pattern") r.pattern
  minItems : Option.Rel IsCount (schema.member? "minItems") r.minItems
  maxItems : Option.Rel IsCount (schema.member? "maxItems") r.maxItems
  uniqueItems : IsFlag (schema.member? "uniqueItems") r.uniqueItems

theorem read_eq_ok_iff {r : ValueRules} :
    ValueRules.read members = .ok r ↔ AreRules (.object members) r := by
  unfold ValueRules.read
  simp only [bind_eq_ok_iff, pure_eq_ok_iff, number?_eq_ok_iff, divisor?_eq_ok_iff,
    count?_eq_ok_iff, flag_eq_ok_iff, pattern?_eq_ok_iff]
  constructor
  · intro read
    obtain ⟨least, minimum, above, exclusiveMinimum, greatest, maximum, below, exclusiveMaximum,
      _, divisor, _, minLength, _, maxLength, _, pattern, _, minItems, _, maxItems, _, uniqueItems,
      rfl⟩ := read
    exact {
      minimum := ⟨least, above, minimum, exclusiveMinimum, rfl⟩
      maximum := ⟨greatest, below, maximum, exclusiveMaximum, rfl⟩
      divisor, minLength, maxLength, pattern, minItems, maxItems, uniqueItems }
  · intro rules
    obtain ⟨least, above, minimum, exclusiveMinimum, hmin⟩ := rules.minimum
    obtain ⟨greatest, below, maximum, exclusiveMaximum, hmax⟩ := rules.maximum
    refine ⟨least, minimum, above, exclusiveMinimum, greatest, maximum, below, exclusiveMaximum,
      _, rules.divisor, _, rules.minLength, _, rules.maxLength, _, rules.pattern,
      _, rules.minItems, _, rules.maxItems, _, rules.uniqueItems, ?_⟩
    rw [← hmin, ← hmax]

end Keyword

end JsonSchema
