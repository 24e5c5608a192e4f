import JsonSchema.Keyword.Check
import JsonSchema.Proofs.Compile.Lookup

set_option autoImplicit false

namespace JsonSchema

open Keyword

-- Limits are compared as binary64 numbers.
structure NumberFits (schema : Json) (n : Number) : Prop where
  minimum : ∀ limit, schema.member? "minimum" = some (.number limit) →
    limit.toBinary64.units ≤ n.toBinary64.units ∧
      (schema.member? "exclusiveMinimum" = some (.bool true) →
        limit.toBinary64.units ≠ n.toBinary64.units)
  maximum : ∀ limit, schema.member? "maximum" = some (.number limit) →
    n.toBinary64.units ≤ limit.toBinary64.units ∧
      (schema.member? "exclusiveMaximum" = some (.bool true) →
        n.toBinary64.units ≠ limit.toBinary64.units)
  divisor : ∀ d, schema.member? "divisibleBy" = some (.number d) → n.isMultiple d = true

structure StringFits [PatternEngine] (schema : Json) (text : String) : Prop where
  minLength : ∀ least fits, schema.member? "minLength" = some (.number (.integer least fits)) →
    least ≤ text.length
  maxLength : ∀ greatest fits,
    schema.member? "maxLength" = some (.number (.integer greatest fits)) → text.length ≤ greatest
  pattern : ∀ source p, schema.member? "pattern" = some (.string source) →
    Pattern.compile source = .ok p → p.accepts text = true

structure ArrayFits (schema : Json) (elements : List Json) : Prop where
  minItems : ∀ least fits, schema.member? "minItems" = some (.number (.integer least fits)) →
    least ≤ elements.length
  maxItems : ∀ greatest fits,
    schema.member? "maxItems" = some (.number (.integer greatest fits)) →
      elements.length ≤ greatest
  unique : schema.member? "uniqueItems" = some (.bool true) →
    elements.Pairwise fun a b => a.equals b = false
  tuple : ∀ entries, schema.member? "items" = some (.array entries) →
    schema.member? "additionalItems" = some (.bool false) → elements.length ≤ entries.length

structure ObjectFits (schema : Json) (members : Members) : Prop where
  required : ∀ properties name property,
    schema.member? "properties" = some (.object properties) → (name, property) ∈ properties →
      property.member? "required" = some (.bool true) → (members.lookup name).isSome = true
  additional : schema.member? "additionalProperties" = some (.bool false) →
    ∀ name v, (name, v) ∈ members → (schema.property? name).isSome = true

def Fits [PatternEngine] (schema : Json) : Json → Prop
  | .null => True
  | .bool _ => True
  | .number n => NumberFits schema n
  | .string text => StringFits schema text
  | .array elements => ArrayFits schema elements
  | .object members => ObjectFits schema members

namespace Json

def HasNoKeywords (schema : Json) : Prop :=
  ∀ name, name ∉ ["type", "disallow", "enum"] → schema.member? name = none

variable {schema : Json}

theorem HasNoKeywords.fits [PatternEngine] (bare : schema.HasNoKeywords) (v : Json) :
    Fits schema v := by
  have absent {name : String} {w : Json} (other : name ∉ ["type", "disallow", "enum"])
      (declared : schema.member? name = some w) : False := by
    rw [bare name other] at declared
    cases declared
  cases v with
  | null | bool => trivial
  | number n =>
    exact {
      minimum := fun _ declared => (absent (by decide) declared).elim
      maximum := fun _ declared => (absent (by decide) declared).elim
      divisor := fun _ declared => (absent (by decide) declared).elim }
  | string text =>
    exact {
      minLength := fun _ _ declared => (absent (by decide) declared).elim
      maxLength := fun _ _ declared => (absent (by decide) declared).elim
      pattern := fun _ _ declared => (absent (by decide) declared).elim }
  | array elements =>
    exact {
      minItems := fun _ _ declared => (absent (by decide) declared).elim
      maxItems := fun _ _ declared => (absent (by decide) declared).elim
      unique := fun declared => (absent (by decide) declared).elim
      tuple := fun _ declared => (absent (by decide) declared).elim }
  | object members =>
    exact {
      required := fun _ _ _ declared => (absent (by decide) declared).elim
      additional := fun declared => (absent (by decide) declared).elim }

theorem HasNoKeywords.schemaAt?_eq_none (bare : schema.HasNoKeywords) (step : Step) :
    schema.schemaAt? step = none := by
  cases step with
  | key name =>
    simp [schemaAt?, memberSchema?, property?, additional?, bare "properties" (by decide),
      bare "additionalProperties" (by decide)]
  | index place => simp [schemaAt?, elementSchema?, bare "items" (by decide)]

end Json

theorem messageIf_eq_nil_iff (condition : Bool) (message : String) :
    messageIf condition message = [] ↔ condition = false := by
  cases condition <;> simp [messageIf]

namespace ValueRules

theorem limitMessages_eq_nil_iff (exclusive : Bool) (low high : Int) (reached passed : String) :
    (if exclusive && low ≤ high then [reached] else messageIf (low < high) passed) = [] ↔
      high ≤ low ∧ (exclusive = true → high ≠ low) := by
  cases exclusive with
  | false => simp [messageIf_eq_nil_iff]
  | true =>
    by_cases touched : low ≤ high
    · simp only [touched, decide_true, Bool.and_self, if_true, List.cons_ne_nil, false_iff,
        forall_const]
      omega
    · simp only [touched, decide_false, Bool.and_false, Bool.false_eq_true, if_false,
        messageIf_eq_nil_iff, decide_eq_false_iff_not, forall_const]
      omega

theorem minimumMessages_eq_nil_iff (shown : String) (value : Binary64) (bound : Option Bound) :
    minimumMessages shown value bound = [] ↔ ∀ b, bound = some b →
      b.limit.units ≤ value.units ∧ (b.exclusive = true → b.limit.units ≠ value.units) := by
  cases bound with
  | none => simp [minimumMessages]
  | some b =>
    simp only [minimumMessages, Option.some.injEq, forall_eq']
    apply limitMessages_eq_nil_iff

theorem maximumMessages_eq_nil_iff (shown : String) (value : Binary64) (bound : Option Bound) :
    maximumMessages shown value bound = [] ↔ ∀ b, bound = some b →
      value.units ≤ b.limit.units ∧ (b.exclusive = true → value.units ≠ b.limit.units) := by
  cases bound with
  | none => simp [maximumMessages]
  | some b =>
    simp only [maximumMessages, Option.some.injEq, forall_eq']
    apply limitMessages_eq_nil_iff

theorem divisorMessages_eq_nil_iff (n : Number) (divisor : Option Number) :
    divisorMessages n divisor = [] ↔ ∀ d, divisor = some d → n.isMultiple d = true := by
  cases divisor <;> simp [divisorMessages, messageIf_eq_nil_iff]

theorem patternMessages_eq_nil_iff [PatternEngine] (text : String) (pattern : Option Pattern) :
    patternMessages text pattern = [] ↔ ∀ p, pattern = some p → p.accepts text = true := by
  cases pattern <;> simp [patternMessages, messageIf_eq_nil_iff]

theorem minLengthMessages_eq_nil_iff (length : Nat) (least : Option Nat) :
    minLengthMessages length least = [] ↔ ∀ n, least = some n → n ≤ length := by
  cases least <;> simp [minLengthMessages, messageIf_eq_nil_iff]

theorem maxLengthMessages_eq_nil_iff (length : Nat) (greatest : Option Nat) :
    maxLengthMessages length greatest = [] ↔ ∀ n, greatest = some n → length ≤ n := by
  cases greatest <;> simp [maxLengthMessages, messageIf_eq_nil_iff]

theorem minItemsMessages_eq_nil_iff (length : Nat) (least : Option Nat) :
    minItemsMessages length least = [] ↔ ∀ n, least = some n → n ≤ length := by
  cases least <;> simp [minItemsMessages, messageIf_eq_nil_iff]

theorem maxItemsMessages_eq_nil_iff (length : Nat) (greatest : Option Nat) :
    maxItemsMessages length greatest = [] ↔ ∀ n, greatest = some n → length ≤ n := by
  cases greatest <;> simp [maxItemsMessages, messageIf_eq_nil_iff]

end ValueRules

theorem Json.hasDuplicate_eq_false_iff (elements : List Json) :
    hasDuplicate elements = false ↔ elements.Pairwise fun a b => a.equals b = false := by
  induction elements with
  | nil => simp [hasDuplicate]
  | cons head rest ih => simp [hasDuplicate, List.pairwise_cons, ih]

namespace Keyword

variable {value : Option Json}

theorem forall_positive_iff {read : Option Number} (related : Option.Rel IsPositive value read)
    {P : Number → Prop} :
    (∀ n, read = some n → P n) ↔ ∀ n, value = some (.number n) → P n := by
  cases related with
  | none => simp
  | some formed =>
    obtain ⟨rfl, _⟩ := formed
    simp

theorem forall_count_iff {read : Option Nat} (related : Option.Rel IsCount value read)
    {P : Int → Prop} :
    (∀ n : Nat, read = some n → P n) ↔
      ∀ n fits, value = some (.number (.integer n fits)) → P n := by
  cases related with
  | none => simp
  | some formed =>
    obtain ⟨fits, rfl⟩ := formed
    constructor
    · intro bound n _ same
      cases same
      exact bound _ rfl
    · intro bound n same
      cases same
      exact bound _ fits rfl

theorem forall_pattern_iff [PatternEngine] {read : Option Pattern}
    (related : Option.Rel IsPattern value read) {P : Pattern → Prop} :
    (∀ p, read = some p → P p) ↔
      ∀ source p, value = some (.string source) → Pattern.compile source = .ok p → P p := by
  cases related with
  | none => simp
  | some formed =>
    obtain ⟨source, rfl, compiled⟩ := formed
    constructor
    · intro accepted _ p same compiles
      cases same
      rw [compiled] at compiles
      cases compiles
      exact accepted _ rfl
    · intro accepted p same
      cases same
      exact accepted source _ rfl compiled

theorem forall_bound_iff {limit exclusive : Option Json} {bound : Option Bound}
    (read : IsBound limit exclusive bound) {P : Int → Prop → Prop} :
    (∀ b, bound = some b → P b.limit.units (b.exclusive = true)) ↔
      ∀ n, limit = some (.number n) → P n.toBinary64.units (exclusive = some (.bool true)) := by
  obtain ⟨n, flag, number, flagged, rfl⟩ := read
  cases number with
  | none => simp
  | some formed =>
    obtain rfl := formed
    simp [flagged.eq_true_iff]

end Keyword

variable [PatternEngine]

namespace Keyword

section Rules

variable {schema : Json} {r : ValueRules} (rules : AreRules schema r)
include rules

theorem numberMessages_eq_nil_iff (n : Number) :
    r.numberMessages n = [] ↔ NumberFits schema n := by
  have minimum := forall_bound_iff rules.minimum (P := fun limit exclusive =>
    limit ≤ n.toBinary64.units ∧ (exclusive → limit ≠ n.toBinary64.units))
  have maximum := forall_bound_iff rules.maximum (P := fun limit exclusive =>
    n.toBinary64.units ≤ limit ∧ (exclusive → n.toBinary64.units ≠ limit))
  have divisor := forall_positive_iff rules.divisor (P := fun d => n.isMultiple d = true)
  simp only [ValueRules.numberMessages, List.append_eq_nil_iff,
    ValueRules.minimumMessages_eq_nil_iff, ValueRules.maximumMessages_eq_nil_iff,
    ValueRules.divisorMessages_eq_nil_iff, minimum, maximum, divisor, and_assoc]
  exact ⟨fun fits => ⟨fits.1, fits.2.1, fits.2.2⟩,
    fun fits => ⟨fits.minimum, fits.maximum, fits.divisor⟩⟩

theorem stringMessages_eq_nil_iff (text : String) :
    r.stringMessages text = [] ↔ StringFits schema text := by
  have minLength := forall_count_iff rules.minLength (P := fun least => least ≤ text.length)
  have maxLength := forall_count_iff rules.maxLength (P := fun greatest => text.length ≤ greatest)
  have pattern := forall_pattern_iff rules.pattern (P := fun p => p.accepts text = true)
  simp only [Int.ofNat_le] at minLength maxLength
  simp only [ValueRules.stringMessages, List.append_eq_nil_iff,
    ValueRules.minLengthMessages_eq_nil_iff, ValueRules.maxLengthMessages_eq_nil_iff,
    ValueRules.patternMessages_eq_nil_iff, minLength, maxLength, pattern, and_assoc]
  exact ⟨fun fits => ⟨fits.1, fits.2.1, fits.2.2⟩,
    fun fits => ⟨fits.minLength, fits.maxLength, fits.pattern⟩⟩

theorem uniqueMessages_eq_nil_iff (elements : List Json) :
    r.uniqueMessages elements = [] ↔ (schema.member? "uniqueItems" = some (.bool true) →
      elements.Pairwise fun a b => a.equals b = false) := by
  rw [← rules.uniqueItems.eq_true_iff, ← Json.hasDuplicate_eq_false_iff, ValueRules.uniqueMessages,
    messageIf_eq_nil_iff]
  cases r.uniqueItems <;> simp

end Rules

end Keyword

namespace Schema

theorem tupleMessages_eq_nil_iff (s : Schema) (elements : List Json) :
    s.tupleMessages elements = [] ↔ ∀ schemas, s.items = .tuple schemas →
      s.additionalItems = .forbidden → elements.length ≤ schemas.length := by
  unfold tupleMessages
  cases s.items with
  | tuple schemas => cases s.additionalItems <;> simp [messageIf_eq_nil_iff]
  | _ => simp

theorem requiredMessages_eq_nil_iff (s : Schema) (members : Members) :
    s.requiredMessages members = [] ↔ ∀ name t, (name, t) ∈ s.properties →
      t.required = true → (members.lookup name).isSome = true := by
  simp [requiredMessages, List.filter_eq_nil_iff, Option.isSome_iff_ne_none]

theorem additionalMessages_eq_nil_iff (s : Schema) (members : Members) :
    s.additionalMessages members = [] ↔ (s.additionalProperties = .forbidden →
      ∀ name v, (name, v) ∈ members → (s.properties.lookup name).isSome = true) := by
  unfold additionalMessages
  cases s.additionalProperties <;>
    simp [List.filter_eq_nil_iff, Option.isSome_iff_ne_none]

theorem IsAdditional.eq_forbidden_iff {value : Option Json} {additional : Additional Schema}
    (read : IsAdditional value additional) :
    additional = .forbidden ↔ value = some (.bool false) := by
  cases read with
  | allowed declared => rcases declared with absent | declared <;> simp [*]
  | forbidden declared => simp [declared]
  | schema declared object =>
    obtain ⟨inner, rfl⟩ := (Json.isObject_iff _).1 object
    simp [declared]

section Compiled

variable {raw : Json} {s : Schema} (compiled : Compiles raw s)
include compiled

theorem Compiles.arrayMessages_eq_nil_iff (elements : List Json) :
    s.rules.arrayMessages elements ++ s.tupleMessages elements = [] ↔ ArrayFits raw elements := by
  obtain ⟨declared, disallowed, parts⟩ := compiles_iff.1 compiled
  have minItems := forall_count_iff parts.rules.minItems (P := fun least => least ≤ elements.length)
  have maxItems :=
    forall_count_iff parts.rules.maxItems (P := fun greatest => elements.length ≤ greatest)
  have tuple : (∀ schemas, s.items = .tuple schemas → s.additionalItems = .forbidden →
      elements.length ≤ schemas.length) ↔
      ∀ entries, raw.member? "items" = some (.array entries) →
        raw.member? "additionalItems" = some (.bool false) →
          elements.length ≤ entries.length := by
    rw [parts.additionalItems.eq_forbidden_iff]
    have read := parts.items
    generalize s.items = items at read ⊢
    cases read with
    | any absent => simp [absent]
    | uniform declared object =>
      obtain ⟨inner, rfl⟩ := (Json.isObject_iff _).1 object
      simp [declared]
    | tuple declared compiled => simp [declared, compiled.length_eq]
  simp only [Int.ofNat_le] at minItems maxItems
  simp only [ValueRules.arrayMessages, List.append_eq_nil_iff,
    ValueRules.minItemsMessages_eq_nil_iff, ValueRules.maxItemsMessages_eq_nil_iff,
    uniqueMessages_eq_nil_iff parts.rules, tupleMessages_eq_nil_iff, minItems, maxItems, tuple,
    and_assoc]
  exact ⟨fun fits => ⟨fits.1, fits.2.1, fits.2.2.1, fits.2.2.2⟩,
    fun fits => ⟨fits.minItems, fits.maxItems, fits.unique, fits.tuple⟩⟩

theorem Compiles.objectMessages_eq_nil_iff (members : Members) :
    s.requiredMessages members ++ s.additionalMessages members = [] ↔ ObjectFits raw members := by
  obtain ⟨declared, disallowed, parts⟩ := compiles_iff.1 compiled
  have required : (∀ name t, (name, t) ∈ s.properties → t.required = true →
      (members.lookup name).isSome = true) ↔
      ∀ properties name property, raw.member? "properties" = some (.object properties) →
        (name, property) ∈ properties → property.member? "required" = some (.bool true) →
          (members.lookup name).isSome = true := by
    have read := parts.properties
    generalize s.properties = properties at read
    cases read with
    | absent absent => simp [absent]
    | object declared aligned =>
      constructor
      · intro present inner name property same member required
        rw [declared] at same
        cases same
        obtain ⟨t, found, compiles⟩ := aligned.mem_left member
        exact present name t found (compiles.required_iff.2 required)
      · intro present name t member required
        obtain ⟨property, found, compiles⟩ := aligned.mem_right member
        exact present _ name property declared found (compiles.required_iff.1 required)
  have listed (name : String) :
      (s.properties.lookup name).isSome = (raw.property? name).isSome := by
    have related := parts.properties.rel_lookup name
    generalize raw.property? name = property, s.properties.lookup name = found at related
    cases related <;> rfl
  simp only [List.append_eq_nil_iff, requiredMessages_eq_nil_iff, additionalMessages_eq_nil_iff,
    parts.additionalProperties.eq_forbidden_iff, required, listed]
  exact ⟨fun fits => ⟨fits.1, fits.2⟩, fun fits => ⟨fits.required, fits.additional⟩⟩

theorem Compiles.messages_eq_nil_iff (v : Json) : s.messages v = [] ↔ Fits raw v := by
  obtain ⟨declared, disallowed, parts⟩ := compiles_iff.1 compiled
  cases v with
  | null | bool => simp [messages, Fits]
  | number n => exact numberMessages_eq_nil_iff parts.rules n
  | string text => exact stringMessages_eq_nil_iff parts.rules text
  | array elements => exact compiled.arrayMessages_eq_nil_iff elements
  | object members => exact compiled.objectMessages_eq_nil_iff members

end Compiled

end Schema

end JsonSchema
