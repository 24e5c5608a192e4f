import JsonSchema.Proofs.Compile.Types

set_option autoImplicit false

namespace JsonSchema.Schema

open Keyword

section Read

variable {value : Option Json}

theorem unique_of_reads {α : Type} {meaning : Option Json → α → Prop} (keyword : String)
    (read : Members → Except SchemaError α)
    (reads : ∀ {m : Members} {a : α}, read m = .ok a ↔ meaning (m.lookup keyword) a) {x y : α}
    (first : meaning value x) (second : meaning value y) : x = y := by
  have declared : ∃ m : Members, m.lookup keyword = value := by
    cases value with
    | none => exact ⟨[], rfl⟩
    | some v => exact ⟨[(keyword, v)], List.lookup_cons_self⟩
  obtain ⟨m, rfl⟩ := declared
  exact Except.ok.inj ((reads.2 first).symm.trans (reads.2 second))

theorem unique_enumeration {x y : Option (List Json)}
    (first : Option.Rel IsArray value x) (second : Option.Rel IsArray value y) : x = y :=
  unique_of_reads "enum" enumeration? enumeration?_eq_ok_iff first second

theorem unique_flag {x y : Bool} (first : IsFlag value x) (second : IsFlag value y) :
    x = y :=
  unique_of_reads "required" (flag · "required") flag_eq_ok_iff first second

end Read

variable [PatternEngine]

structure Assembled (raw : Json) (declared disallowed : ResolvedTypes) (s : Schema) : Prop where
  object : raw.isObject = true
  source : s.raw = raw
  type : AreTypes .all (raw.member? "type") declared
  disallow : AreTypes .empty (raw.member? "disallow") disallowed
  nonempty : s.allowed.isEmpty = false
  allowed : s.allowed = declared.types.without disallowed.types
  named : s.named = declared.named.without disallowed.types
  alternatives : s.alternatives = declared.anonymous
  enumeration : Option.Rel IsArray (raw.member? "enum") s.enumeration
  rules : AreRules raw s.rules
  items : AreItems (raw.member? "items") s.items
  additionalItems : IsAdditional (raw.member? "additionalItems") s.additionalItems
  required : IsFlag (raw.member? "required") s.required
  properties : AreProperties (raw.member? "properties") s.properties
  additionalProperties : IsAdditional (raw.member? "additionalProperties") s.additionalProperties

theorem compiles_iff {raw : Json} {s : Schema} :
    Compiles raw s ↔ ∃ declared disallowed, Assembled raw declared disallowed s := by
  constructor
  · intro compiled
    obtain ⟨members, rfl⟩ := (Json.isObject_iff _).1 compiled.isObject
    rw [Compiles, compile] at compiled
    simp only [bind_eq_ok_iff] at compiled
    obtain ⟨declared, hdeclared, disallowed, hdisallowed, rest⟩ := compiled
    split at rest
    next => cases rest
    next nonempty =>
      simp only [bind_eq_ok_iff, pure_eq_ok_iff] at rest
      obtain ⟨enumeration, henumeration, rules, hrules, items, hitems, additionalItems,
        hadditionalItems, required, hrequired, properties, hproperties, additionalProperties,
        hadditionalProperties, rfl⟩ := rest
      exact ⟨declared, disallowed, {
        object := rfl
        source := rfl
        type := typesIn_eq_ok_iff.1 hdeclared
        disallow := typesIn_eq_ok_iff.1 hdisallowed
        nonempty := eq_false_of_ne_true nonempty
        allowed := rfl
        named := rfl
        alternatives := rfl
        enumeration := enumeration?_eq_ok_iff.1 henumeration
        rules := read_eq_ok_iff.1 hrules
        items := itemsIn_eq_ok_iff.1 hitems
        additionalItems := additionalIn_eq_ok_iff.1 hadditionalItems
        required := flag_eq_ok_iff.1 hrequired
        properties := propertiesIn_eq_ok_iff.1 hproperties
        additionalProperties := additionalIn_eq_ok_iff.1 hadditionalProperties }⟩
  · intro assembled
    obtain ⟨declared, disallowed, parts⟩ := assembled
    obtain ⟨members, rfl⟩ := (Json.isObject_iff _).1 parts.object
    obtain ⟨raw, allowed, named, enumeration, alternatives, rules, items, additionalItems, required,
      properties, additionalProperties⟩ := s
    have nonempty := parts.nonempty
    obtain rfl := parts.source
    obtain rfl := parts.allowed
    obtain rfl := parts.named
    obtain rfl := parts.alternatives
    rw [Compiles, compile]
    simp only [bind_eq_ok_iff]
    refine ⟨declared, typesIn_eq_ok_iff.2 parts.type, disallowed,
      typesIn_eq_ok_iff.2 parts.disallow, ?_⟩
    rw [if_neg (by simpa using nonempty)]
    simp only [bind_eq_ok_iff, pure_eq_ok_iff]
    exact ⟨enumeration, enumeration?_eq_ok_iff.2 parts.enumeration, rules,
      read_eq_ok_iff.2 parts.rules, items, itemsIn_eq_ok_iff.2 parts.items, additionalItems,
      additionalIn_eq_ok_iff.2 parts.additionalItems, required, flag_eq_ok_iff.2 parts.required,
      properties, propertiesIn_eq_ok_iff.2 parts.properties, additionalProperties,
      additionalIn_eq_ok_iff.2 parts.additionalProperties, rfl⟩

section Kinds

variable {raw : Json} {declared disallowed : ResolvedTypes}

theorem declared_iff (types : AreTypes .all (raw.member? "type") declared)
    (nested : ∀ place sub t, Subschema raw (.alternative place) sub → Compiles sub t →
      ∀ k, t.allowed.kinds k ↔ sub.allowedKinds k) (k : Kind) :
    declared.types.kinds k ↔ raw.declaredKinds k := by
  rw [types.kinds_iff fun elements i sub t declared found compiled =>
    nested i sub t (.alternative declared found compiled.isObject) compiled, Json.declaredKinds]
  refine or_congr (by simp [Json.namedKinds]) ⟨?_, ?_⟩
  · intro granted
    obtain ⟨elements, i, sub, declared, found, object, allowed⟩ := granted
    exact ⟨i, sub, .alternative declared found object, allowed⟩
  · intro granted
    obtain ⟨i, sub, inside, allowed⟩ := granted
    cases inside with
    | alternative declared found object =>
      exact ⟨_, i, sub, declared, found, object, allowed⟩

theorem disallowed_iff (types : AreTypes .empty (raw.member? "disallow") disallowed)
    (nested : ∀ place sub t, Subschema raw (.disallowed place) sub → Compiles sub t →
      ∀ k, t.allowed.kinds k ↔ sub.allowedKinds k) (k : Kind) :
    disallowed.types.kinds k ↔ raw.disallowedKinds k := by
  rw [types.kinds_iff fun elements i sub t declared found compiled =>
    nested i sub t (.disallowed declared found compiled.isObject) compiled, Json.disallowedKinds]
  refine or_congr (by simp) ⟨?_, ?_⟩
  · intro granted
    obtain ⟨elements, i, sub, declared, found, object, allowed⟩ := granted
    exact ⟨i, sub, .disallowed declared found object, allowed⟩
  · intro granted
    obtain ⟨i, sub, inside, allowed⟩ := granted
    cases inside with
    | disallowed declared found object => exact ⟨_, i, sub, declared, found, object, allowed⟩

end Kinds

theorem Compiles.allowed_iff {raw : Json} {s : Schema} (compiled : Compiles raw s) (k : Kind) :
    s.allowed.kinds k ↔ raw.allowedKinds k := by
  induction raw using Subschema.induction generalizing s k with
  | step raw ih =>
    obtain ⟨declared, disallowed, parts⟩ := compiles_iff.1 compiled
    rw [parts.allowed, TypeSet.kinds_without, Json.allowedKinds]
    refine Kinds.without_congr (declared_iff parts.type ?_) (disallowed_iff parts.disallow ?_) k
    · exact fun place sub t inside compiled => ih _ _ inside compiled
    · exact fun place sub t inside compiled => ih _ _ inside compiled

theorem Compiles.named_iff {raw : Json} {s : Schema} (compiled : Compiles raw s) (k : Kind) :
    s.named.kinds k ↔ raw.grantedKinds k := by
  obtain ⟨declared, disallowed, parts⟩ := compiles_iff.1 compiled
  rw [parts.named, TypeSet.kinds_without, Json.grantedKinds]
  refine Kinds.without_congr (fun k => ?_)
    (disallowed_iff parts.disallow fun _ _ _ _ compiled => compiled.allowed_iff) k
  rw [parts.type.named_iff]
  simp [Json.namedKinds]

theorem Compiles.mem_alternatives_iff {raw : Json} {s : Schema} (compiled : Compiles raw s)
    (place : Nat) (t : Schema) :
    (place, t) ∈ s.alternatives ↔
      ∃ sub, Subschema raw (.alternative place) sub ∧ Compiles sub t := by
  obtain ⟨declared, disallowed, parts⟩ := compiles_iff.1 compiled
  rw [parts.alternatives, parts.type.mem_anonymous_iff]
  constructor
  · intro listed
    obtain ⟨elements, sub, declared, found, compiled⟩ := listed
    exact ⟨sub, .alternative declared found compiled.isObject, compiled⟩
  · intro listed
    obtain ⟨sub, inside, compiled⟩ := listed
    cases inside with
    | alternative declared found => exact ⟨_, sub, declared, found, compiled⟩

theorem Compiles.subschema {raw sub : Json} {s : Schema} {position : Position}
    (compiled : Compiles raw s) (inside : Subschema raw position sub) : ∃ t, Compiles sub t := by
  obtain ⟨declared, disallowed, parts⟩ := compiles_iff.1 compiled
  have additional {keyword : String} {a : Additional Schema}
      (read : IsAdditional (raw.member? keyword) a) (declared : raw.member? keyword = some sub)
      (object : sub.isObject = true) : ∃ t, Compiles sub t := by
    rcases exists_isAdditional_iff.1 ⟨a, read⟩ sub declared with ⟨flag, rfl⟩ | compiles
    · cases object
    · exact compiles
  cases inside with
  | alternative declared found object => exact parts.type.exists_compiles declared found object
  | disallowed declared found object => exact parts.disallow.exists_compiles declared found object
  | items declared object =>
    rcases exists_areItems_iff.1 ⟨_, parts.items⟩ sub declared with compiles | ⟨elements, rfl, _⟩
    · exact compiles
    · cases object
  | item declared found =>
    rcases exists_areItems_iff.1 ⟨_, parts.items⟩ _ declared with ⟨s, compiled⟩ | ⟨_, same, each⟩
    · cases compiled.isObject
    · cases same
      exact each sub (List.mem_of_getElem? found)
  | additionalItems declared object => exact additional parts.additionalItems declared object
  | property declared member =>
    obtain ⟨_, same, each⟩ := exists_areProperties_iff.1 ⟨_, parts.properties⟩ _ declared
    cases same
    exact each _ sub member
  | additionalProperties declared object =>
    exact additional parts.additionalProperties declared object

theorem Compiles.exists_alternative_iff {raw : Json} {s : Schema} (compiled : Compiles raw s)
    {P : Schema → Prop} {Q : Json → Prop}
    (same : ∀ place sub t, Subschema raw (.alternative place) sub → Compiles sub t →
      (P t ↔ Q sub)) :
    (∃ place t, (place, t) ∈ s.alternatives ∧ P t) ↔
      ∃ place sub, Subschema raw (.alternative place) sub ∧ Q sub := by
  constructor
  · intro found
    obtain ⟨place, t, member, holds⟩ := found
    obtain ⟨sub, inside, nested⟩ := (compiled.mem_alternatives_iff place t).1 member
    exact ⟨place, sub, inside, (same place sub t inside nested).1 holds⟩
  · intro found
    obtain ⟨place, sub, inside, holds⟩ := found
    obtain ⟨t, nested⟩ := compiled.subschema inside
    exact ⟨place, t, (compiled.mem_alternatives_iff place t).2 ⟨sub, inside, nested⟩,
      (same place sub t inside nested).2 holds⟩

section Unique

variable {value : Option Json}

theorem AreItems.unique {x y : Items Schema} (first : AreItems value x)
    (second : AreItems value y) : x = y :=
  unique_of_reads "items" (itemsIn "items") itemsIn_eq_ok_iff first second

theorem IsAdditional.unique {x y : Additional Schema} (first : IsAdditional value x)
    (second : IsAdditional value y) : x = y :=
  unique_of_reads "additionalItems" (additionalIn "additionalItems") additionalIn_eq_ok_iff first
    second

theorem AreProperties.unique {x y : List (String × Schema)} (first : AreProperties value x)
    (second : AreProperties value y) : x = y :=
  unique_of_reads "properties" (propertiesIn "properties") propertiesIn_eq_ok_iff first second

theorem Compiles.unique {raw : Json} {s t : Schema} (first : Compiles raw s)
    (second : Compiles raw t) : s = t :=
  Except.ok.inj (first.symm.trans second)

section Kinds

variable {raw raw' : Json} {s t : Schema} (left : Compiles raw s) (right : Compiles raw' t)
include left right

theorem Compiles.allowed_eq (same : ∀ k, raw.allowedKinds k ↔ raw'.allowedKinds k) :
    s.allowed = t.allowed := by
  refine TypeSet.ext fun k => Bool.eq_iff_iff.2 ?_
  exact (left.allowed_iff k).trans ((same k).trans (right.allowed_iff k).symm)

theorem Compiles.named_eq (same : ∀ k, raw.grantedKinds k ↔ raw'.grantedKinds k) :
    s.named = t.named := by
  refine TypeSet.ext fun k => Bool.eq_iff_iff.2 ?_
  exact (left.named_iff k).trans ((same k).trans (right.named_iff k).symm)

end Kinds

def ruleNames : List String :=
  ["minimum", "exclusiveMinimum", "maximum", "exclusiveMaximum", "divisibleBy", "minLength",
    "maxLength", "pattern", "minItems", "maxItems", "uniqueItems"]

theorem read_congr {members members' : Members}
    (same : ∀ name ∈ ruleNames, members.lookup name = members'.lookup name) :
    ValueRules.read members = ValueRules.read members' := by
  simp (disch := decide) only [ValueRules.read, number?, divisor?, count?, flag, pattern?, same]

theorem areRules_congr {raw raw' : Json} {r : ValueRules}
    (same : ∀ name ∈ ruleNames, raw'.member? name = raw.member? name) (rules : AreRules raw r) :
    AreRules raw' r := by
  constructor
  all_goals simp (disch := decide) only [same]
  · exact rules.minimum
  · exact rules.maximum
  · exact rules.divisor
  · exact rules.minLength
  · exact rules.maxLength
  · exact rules.pattern
  · exact rules.minItems
  · exact rules.maxItems
  · exact rules.uniqueItems

theorem Compiles.replace {raw raw' : Json} {s : Schema} {declared disallowed : ResolvedTypes}
    {additionalItems : Additional Schema} (compiled : Compiles raw s) (object : raw'.isObject = true)
    (same : ∀ name, name ∉ ["type", "disallow", "additionalItems"] →
      raw'.member? name = raw.member? name)
    (type : AreTypes .all (raw'.member? "type") declared)
    (disallow : AreTypes .empty (raw'.member? "disallow") disallowed)
    (nonempty : (declared.types.without disallowed.types).isEmpty = false)
    (additional : IsAdditional (raw'.member? "additionalItems") additionalItems) :
    Compiles raw' { s with
      raw := raw'
      allowed := declared.types.without disallowed.types
      named := declared.named.without disallowed.types
      alternatives := declared.anonymous
      additionalItems } := by
  obtain ⟨_, _, parts⟩ := compiles_iff.1 compiled
  refine compiles_iff.2 ⟨declared, disallowed, {
    object
    source := rfl
    type
    disallow
    nonempty
    allowed := rfl
    named := rfl
    alternatives := rfl
    enumeration := by
      rw [same _ (by decide)]
      exact parts.enumeration
    rules := by
      have other : ∀ name ∈ ruleNames, name ∉ ["type", "disallow", "additionalItems"] := by decide
      exact areRules_congr (fun name listed => same name (other name listed)) parts.rules
    items := by
      rw [same _ (by decide)]
      exact parts.items
    additionalItems := additional
    required := by
      rw [same _ (by decide)]
      exact parts.required
    properties := by
      rw [same _ (by decide)]
      exact parts.properties
    additionalProperties := by
      rw [same _ (by decide)]
      exact parts.additionalProperties }⟩

theorem Compiles.rules_eq {raw raw' : Json} {s t : Schema} (left : Compiles raw s)
    (right : Compiles raw' t) (same : ∀ name ∈ ruleNames, raw.member? name = raw'.member? name) :
    s.rules = t.rules := by
  obtain ⟨_, _, parts⟩ := compiles_iff.1 left
  obtain ⟨_, _, parts'⟩ := compiles_iff.1 right
  obtain ⟨members, rfl⟩ := (Json.isObject_iff _).1 left.isObject
  obtain ⟨members', rfl⟩ := (Json.isObject_iff _).1 right.isObject
  exact Except.ok.inj ((read_eq_ok_iff.2 parts.rules).symm.trans
    ((read_congr same).trans (read_eq_ok_iff.2 parts'.rules)))

end Unique

end JsonSchema.Schema
