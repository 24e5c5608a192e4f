import JsonSchema.Proofs.Compile.Inversion
import JsonSchema.Validator

set_option autoImplicit false

namespace JsonSchema

open Schema

variable [PatternEngine]

-- A keyword that is absent is in no wrong form.
def Json.Holds (schema : Json) (keyword : String) (form : Json → Prop) : Prop :=
  ∀ v, schema.member? keyword = some v → form v

def Json.IsTypeNameText (v : Json) : Prop := ∃ text, v = .string text ∧ IsTypeName text

def Json.IsTypes (v : Json) : Prop :=
  v.IsTypeNameText ∨ ∃ elements, v = .array elements ∧
    ∀ e ∈ elements, e.IsTypeNameText ∨ e.isObject = true

structure InForm (schema : Json) : Prop where
  object : schema.isObject = true
  types : ∀ keyword ∈ ["type", "disallow"], schema.Holds keyword Json.IsTypes
  kinds : ∃ k, schema.allowedKinds k
  enumeration : schema.Holds "enum" fun v => ∃ values, v = .array values
  limits : ∀ keyword ∈ ["minimum", "maximum"], schema.Holds keyword fun v => ∃ n, v = .number n
  divisor : schema.Holds "divisibleBy" fun v => ∃ n, v = .number n ∧ 0 < n.units
  flags : ∀ keyword ∈ ["exclusiveMinimum", "exclusiveMaximum", "uniqueItems", "required"],
    schema.Holds keyword fun v => ∃ flag, v = .bool flag
  counts : ∀ keyword ∈ ["minLength", "maxLength", "minItems", "maxItems"],
    schema.Holds keyword fun v => ∃ (count : Nat) (fits : _), v = .number (.integer count fits)
  pattern : schema.Holds "pattern" fun v =>
    ∃ source, v = .string source ∧ ∃ pattern, Pattern.compile source = .ok pattern
  items : schema.Holds "items" fun v => v.isObject = true ∨ ∃ elements, v = .array elements
  additional : ∀ keyword ∈ ["additionalItems", "additionalProperties"],
    schema.Holds keyword fun v => (∃ flag, v = .bool flag) ∨ v.isObject = true
  properties : schema.Holds "properties" fun v => v.isObject = true

inductive WellFormed : Json → Prop where
  | intro {schema : Json} (form : InForm schema)
      (nested : ∀ position sub, Subschema schema position sub → WellFormed sub) : WellFormed schema

theorem Keyword.exists_areRules_iff {schema : Json} :
    (∃ r, AreRules schema r) ↔
      (∀ keyword ∈ ["minimum", "maximum"], schema.Holds keyword fun v => ∃ n, v = .number n) ∧
      (schema.Holds "divisibleBy" fun v => ∃ n, v = .number n ∧ 0 < n.units) ∧
      (∀ keyword ∈ ["exclusiveMinimum", "exclusiveMaximum", "uniqueItems"],
        schema.Holds keyword fun v => ∃ flag, v = .bool flag) ∧
      (∀ keyword ∈ ["minLength", "maxLength", "minItems", "maxItems"],
        schema.Holds keyword fun v => ∃ count, IsCount v count) ∧
      schema.Holds "pattern" fun v => ∃ pattern, IsPattern v pattern := by
  constructor
  · intro accepted
    obtain ⟨r, rules⟩ := accepted
    have minimum := exists_isBound_iff.1 ⟨_, rules.minimum⟩
    have maximum := exists_isBound_iff.1 ⟨_, rules.maximum⟩
    have unique := exists_isFlag_iff.1 ⟨_, rules.uniqueItems⟩
    have minLength := exists_rel_iff.1 ⟨_, rules.minLength⟩
    have maxLength := exists_rel_iff.1 ⟨_, rules.maxLength⟩
    have minItems := exists_rel_iff.1 ⟨_, rules.minItems⟩
    have maxItems := exists_rel_iff.1 ⟨_, rules.maxItems⟩
    refine ⟨?_, exists_rel_iff.1 ⟨_, rules.divisor⟩, ?_, ?_, exists_rel_iff.1 ⟨_, rules.pattern⟩⟩
    · rw [List.forall_mem_cons, List.forall_mem_singleton]
      exact ⟨minimum.1, maximum.1⟩
    · rw [List.forall_mem_cons, List.forall_mem_cons, List.forall_mem_singleton]
      exact ⟨minimum.2, maximum.2, unique⟩
    · rw [List.forall_mem_cons, List.forall_mem_cons, List.forall_mem_cons,
        List.forall_mem_singleton]
      exact ⟨minLength, maxLength, minItems, maxItems⟩
  · intro formed
    obtain ⟨limits, divisor, flags, counts, pattern⟩ := formed
    obtain ⟨minimum, hminimum⟩ :=
      exists_isBound_iff.2 ⟨limits "minimum" (by simp), flags "exclusiveMinimum" (by simp)⟩
    obtain ⟨maximum, hmaximum⟩ :=
      exists_isBound_iff.2 ⟨limits "maximum" (by simp), flags "exclusiveMaximum" (by simp)⟩
    obtain ⟨divisor, hdivisor⟩ := exists_rel_iff.2 divisor
    obtain ⟨minLength, hminLength⟩ := exists_rel_iff.2 (counts "minLength" (by simp))
    obtain ⟨maxLength, hmaxLength⟩ := exists_rel_iff.2 (counts "maxLength" (by simp))
    obtain ⟨pattern, hpattern⟩ := exists_rel_iff.2 pattern
    obtain ⟨minItems, hminItems⟩ := exists_rel_iff.2 (counts "minItems" (by simp))
    obtain ⟨maxItems, hmaxItems⟩ := exists_rel_iff.2 (counts "maxItems" (by simp))
    obtain ⟨uniqueItems, huniqueItems⟩ := exists_isFlag_iff.2 (flags "uniqueItems" (by simp))
    exact ⟨⟨minimum, maximum, divisor, minLength, maxLength, pattern, minItems, maxItems,
      uniqueItems⟩, hminimum, hmaximum, hdivisor, hminLength, hmaxLength, hpattern, hminItems,
      hmaxItems, huniqueItems⟩

section Form

variable {raw : Json} {keyword : String}

theorem Schema.AreTypes.holds {unset : TypeSet} {r : ResolvedTypes}
    (read : AreTypes unset (raw.member? keyword) r) : raw.Holds keyword Json.IsTypes := by
  intro v declared
  rcases exists_areTypes_iff.1 ⟨r, read⟩ v declared with named | ⟨elements, rfl, each⟩
  · exact .inl named
  · refine .inr ⟨elements, rfl, fun e member => (each e member).imp_right ?_⟩
    intro accepted
    obtain ⟨_, compiled⟩ := accepted
    exact compiled.isObject

theorem Schema.IsAdditional.holds {a : Additional Schema}
    (read : IsAdditional (raw.member? keyword) a) :
    raw.Holds keyword fun v => (∃ flag, v = .bool flag) ∨ v.isObject = true := by
  intro v declared
  refine (exists_isAdditional_iff.1 ⟨a, read⟩ v declared).imp_right ?_
  intro accepted
  obtain ⟨_, compiled⟩ := accepted
  exact compiled.isObject

theorem Schema.Compiles.inForm {s : Schema} (compiled : Compiles raw s) : InForm raw := by
  obtain ⟨declared, disallowed, parts⟩ := compiles_iff.1 compiled
  obtain ⟨limits, divisor, flags, counts, pattern⟩ :=
    Keyword.exists_areRules_iff.1 ⟨_, parts.rules⟩
  have required := Keyword.exists_isFlag_iff.1 ⟨_, parts.required⟩
  exact {
    object := compiled.isObject
    types := by
      rw [List.forall_mem_cons, List.forall_mem_singleton]
      exact ⟨parts.type.holds, parts.disallow.holds⟩
    kinds := by
      obtain ⟨k, member⟩ := (TypeSet.isEmpty_eq_false_iff _).1 parts.nonempty
      exact ⟨k, (compiled.allowed_iff k).1 member⟩
    enumeration := exists_rel_iff.1 ⟨_, parts.enumeration⟩
    limits
    divisor
    flags := by
      intro keyword listed
      by_cases same : keyword = "required"
      · subst same
        exact required
      · exact flags keyword (by simpa [same] using listed)
    counts
    pattern := by
      intro v declared
      obtain ⟨p, source, same, compiled⟩ := pattern v declared
      exact ⟨source, same, p, compiled⟩
    items := by
      intro v declared
      rcases exists_areItems_iff.1 ⟨_, parts.items⟩ v declared with ⟨_, compiled⟩ | tuple
      · exact .inl compiled.isObject
      · exact .inr (tuple.imp fun _ => And.left)
    additional := by
      rw [List.forall_mem_cons, List.forall_mem_singleton]
      exact ⟨parts.additionalItems.holds, parts.additionalProperties.holds⟩
    properties := by
      intro v declared
      obtain ⟨members, rfl, _⟩ := exists_areProperties_iff.1 ⟨_, parts.properties⟩ v declared
      rfl }

theorem exists_areTypes_of_holds (unset : TypeSet) (form : raw.Holds keyword Json.IsTypes)
    (nested : ∀ (elements : List Json) (place : Nat) (sub : Json),
      raw.member? keyword = some (.array elements) → elements[place]? = some sub →
      sub.isObject = true → ∃ t, Compiles sub t) :
    ∃ r, AreTypes unset (raw.member? keyword) r := by
  refine exists_areTypes_iff.2 fun v declared => (form v declared).imp_right ?_
  intro listed
  obtain ⟨elements, rfl, each⟩ := listed
  refine ⟨elements, rfl, fun e member => (each e member).imp_right fun object => ?_⟩
  obtain ⟨place, found⟩ := List.mem_iff_getElem?.1 member
  exact nested elements place e declared found object

theorem exists_isAdditional_of_holds
    (form : raw.Holds keyword fun v => (∃ flag, v = .bool flag) ∨ v.isObject = true)
    (nested : ∀ sub, raw.member? keyword = some sub → sub.isObject = true →
      ∃ t, Compiles sub t) :
    ∃ a, IsAdditional (raw.member? keyword) a :=
  exists_isAdditional_iff.2 fun v declared => (form v declared).imp_right (nested v declared)

theorem InForm.exists_areRules (form : InForm raw) : ∃ r, Keyword.AreRules raw r := by
  refine Keyword.exists_areRules_iff.2 ⟨form.limits, form.divisor, ?_, form.counts, ?_⟩
  · intro keyword listed
    refine form.flags keyword ?_
    simp only [List.mem_cons, List.not_mem_nil, or_false] at listed ⊢
    tauto
  · intro v declared
    obtain ⟨source, same, p, compiled⟩ := form.pattern v declared
    exact ⟨p, source, same, compiled⟩

theorem InForm.exists_areItems (form : InForm raw)
    (nested : ∀ position sub, Subschema raw position sub → ∃ t, Compiles sub t) :
    ∃ items, AreItems (raw.member? "items") items := by
  refine exists_areItems_iff.2 fun v declared => ?_
  rcases form.items v declared with object | ⟨elements, rfl⟩
  · exact .inl (nested _ v (.items declared object))
  · refine .inr ⟨elements, rfl, fun e member => ?_⟩
    obtain ⟨place, found⟩ := List.mem_iff_getElem?.1 member
    exact nested _ e (.item declared found)

theorem InForm.exists_areProperties (form : InForm raw)
    (nested : ∀ position sub, Subschema raw position sub → ∃ t, Compiles sub t) :
    ∃ properties, AreProperties (raw.member? "properties") properties := by
  refine exists_areProperties_iff.2 fun v declared => ?_
  obtain ⟨members, rfl⟩ := (Json.isObject_iff v).1 (form.properties v declared)
  exact ⟨members, rfl, fun name sub member => nested _ sub (.property declared member)⟩

theorem InForm.exists_compiles (form : InForm raw)
    (nested : ∀ position sub, Subschema raw position sub → ∃ t, Compiles sub t) :
    ∃ s, Compiles raw s := by
  obtain ⟨declared, type⟩ := exists_areTypes_of_holds .all (form.types "type" (by simp))
    fun _ _ sub declared found object => nested _ sub (.alternative declared found object)
  obtain ⟨disallowed, disallow⟩ := exists_areTypes_of_holds .empty (form.types "disallow" (by simp))
    fun _ _ sub declared found object => nested _ sub (.disallowed declared found object)
  obtain ⟨enumeration, henumeration⟩ := exists_rel_iff.2 form.enumeration
  obtain ⟨rules, hrules⟩ := form.exists_areRules
  obtain ⟨items, hitems⟩ := form.exists_areItems nested
  obtain ⟨additionalItems, hadditionalItems⟩ :=
    exists_isAdditional_of_holds (form.additional "additionalItems" (by simp))
      fun sub declared object => nested _ sub (.additionalItems declared object)
  obtain ⟨required, hrequired⟩ :=
    Keyword.exists_isFlag_iff.2 (form.flags "required" (by simp))
  obtain ⟨properties, hproperties⟩ := form.exists_areProperties nested
  obtain ⟨additionalProperties, hadditionalProperties⟩ :=
    exists_isAdditional_of_holds (form.additional "additionalProperties" (by simp))
      fun sub declared object => nested _ sub (.additionalProperties declared object)
  refine ⟨⟨raw, declared.types.without disallowed.types, declared.named.without disallowed.types,
    enumeration, declared.anonymous, rules, items, additionalItems, required, properties,
    additionalProperties⟩, compiles_iff.2 ⟨declared, disallowed, {
      object := form.object
      source := rfl
      type
      disallow
      nonempty := ?_
      allowed := rfl
      named := rfl
      alternatives := rfl
      enumeration := henumeration
      rules := hrules
      items := hitems
      additionalItems := hadditionalItems
      required := hrequired
      properties := hproperties
      additionalProperties := hadditionalProperties }⟩⟩
  obtain ⟨k, allowed⟩ := form.kinds
  refine (TypeSet.isEmpty_eq_false_iff _).2 ⟨k, ?_⟩
  rw [Json.allowedKinds] at allowed
  rw [TypeSet.kinds_without]
  refine (Kinds.without_congr (declared_iff type ?_) (disallowed_iff disallow ?_) k).2 allowed
  · exact fun _ _ _ _ compiled => compiled.allowed_iff
  · exact fun _ _ _ _ compiled => compiled.allowed_iff

end Form

theorem wellFormed_iff {raw : Json} : WellFormed raw ↔ ∃ s, Compiles raw s := by
  induction raw using Subschema.induction with
  | step raw ih =>
    constructor
    · intro wellFormed
      obtain ⟨form, nested⟩ := wellFormed
      exact form.exists_compiles fun position sub inside =>
        (ih position sub inside).1 (nested position sub inside)
    · intro accepted
      obtain ⟨s, compiled⟩ := accepted
      exact ⟨compiled.inForm, fun position sub inside =>
        (ih position sub inside).2 (compiled.subschema inside)⟩

theorem isValid_compile_iff (raw : Json) :
    (Node.compile raw).isValid = true ↔ ∃ s, Compiles raw s := by
  unfold Node.isValid Node.schema? Node.compile Compiles
  cases Schema.compile raw <;> simp [Except.toOption]

/-- Compiling accepts the grammar and nothing else. A value outside it has one message, and that
message is all that any validation reports. -/
theorem compile_accepts_grammar (raw : Json) :
    ((Node.compile raw).isValid = true ↔ WellFormed raw) ∧
      (WellFormed raw ∧ (Node.compile raw).messages = [] ∨
        ¬WellFormed raw ∧ (Node.compile raw).schema?.isNone ∧ ∃ cause : SchemaError,
          (Node.compile raw).messages = [cause.message] ∧ ∀ (o : Options) (checks : List Check) v,
            ({ Validator.ofSchema raw with options := o, checks := checks }.check v).diagnostics =
              [⟨.schemaDefect, .root, cause.message⟩]) := by
  refine ⟨by rw [isValid_compile_iff, wellFormed_iff], ?_⟩
  rw [wellFormed_iff]
  cases compiled : Schema.compile raw with
  | ok s => exact .inl ⟨⟨s, compiled⟩, by rw [Node.messages, Node.compile, compiled]⟩
  | error cause =>
    refine .inr ⟨?_, ?_, cause, ?_, fun o checks v => ?_⟩
    · intro accepted
      obtain ⟨s, compiles⟩ := accepted
      rw [Compiles, compiled] at compiles
      cases compiles
    · rw [Node.schema?, Node.compile, compiled]
      rfl
    · rw [Node.messages, Node.compile, compiled]
    · simp only [Validator.check, Validator.ofSchema, Validator.ofSchema?, Option.map_some,
        Node.compile, compiled]

end JsonSchema
