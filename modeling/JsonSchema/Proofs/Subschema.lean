import JsonSchema.Proofs.Document

set_option autoImplicit false

/-!
The schemas that stand directly inside a schema document, as the document is written: where each of
them stands, and which of them is asked about a place one step below a value. Nothing here compiles
anything. A position lies strictly inside its document, so properties of documents can be proved and
defined from the nested schemas outwards.
-/

namespace JsonSchema

inductive Position where
  | alternative (place : Nat)
  | disallowed (place : Nat)
  | items
  | item (place : Nat)
  | additionalItems
  | property (name : String)
  | additionalProperties
deriving DecidableEq

def Position.keyword : Position → String
  | alternative _ => "type"
  | disallowed _ => "disallow"
  | items => "items"
  | item _ => "items"
  | additionalItems => "additionalItems"
  | property _ => "properties"
  | additionalProperties => "additionalProperties"

inductive Position.Corresponds : Position → Position → Prop where
  | refl (p : Position) : Corresponds p p
  | alternative (place place' : Nat) : Corresponds (.alternative place) (.alternative place')
  | disallowed (place place' : Nat) : Corresponds (.disallowed place) (.disallowed place')

theorem Position.Corresponds.symm {p q : Position} (same : p.Corresponds q) : q.Corresponds p := by
  cases same with
  | refl => exact .refl p
  | alternative => exact .alternative _ _
  | disallowed => exact .disallowed _ _

theorem Position.Corresponds.trans {p q r : Position} (first : p.Corresponds q)
    (second : q.Corresponds r) : p.Corresponds r := by
  cases first with
  | refl => exact second
  | alternative =>
    cases second with
    | refl | alternative => exact .alternative _ _
  | disallowed =>
    cases second with
    | refl | disallowed => exact .disallowed _ _

/-- `Subschema schema position sub`: at this position of the document stands `sub`. In the arrays of
`type` and `disallow` only objects count, since the other elements are names. -/
inductive Subschema (schema : Json) : Position → Json → Prop where
  | alternative {elements : List Json} {place : Nat} {sub : Json}
      (declared : schema.member? "type" = some (.array elements))
      (found : elements[place]? = some sub) (object : sub.isObject = true) :
      Subschema schema (.alternative place) sub
  | disallowed {elements : List Json} {place : Nat} {sub : Json}
      (declared : schema.member? "disallow" = some (.array elements))
      (found : elements[place]? = some sub) (object : sub.isObject = true) :
      Subschema schema (.disallowed place) sub
  | items {sub : Json} (declared : schema.member? "items" = some sub)
      (object : sub.isObject = true) : Subschema schema .items sub
  | item {elements : List Json} {place : Nat} {sub : Json}
      (declared : schema.member? "items" = some (.array elements))
      (found : elements[place]? = some sub) : Subschema schema (.item place) sub
  | additionalItems {sub : Json} (declared : schema.member? "additionalItems" = some sub)
      (object : sub.isObject = true) : Subschema schema .additionalItems sub
  | property {members : List (String × Json)} {name : String} {sub : Json}
      (declared : schema.member? "properties" = some (.object members))
      (member : (name, sub) ∈ members) : Subschema schema (.property name) sub
  | additionalProperties {sub : Json}
      (declared : schema.member? "additionalProperties" = some sub)
      (object : sub.isObject = true) : Subschema schema .additionalProperties sub

theorem Subschema.mono {schema schema' sub : Json} {position : Position}
    (h : Subschema schema position sub)
    (kept : ∀ v, schema.member? position.keyword = some v →
      schema'.member? position.keyword = some v) : Subschema schema' position sub := by
  cases h with
  | alternative declared found object => exact .alternative (kept _ declared) found object
  | disallowed declared found object => exact .disallowed (kept _ declared) found object
  | items declared object => exact .items (kept _ declared) object
  | item declared found => exact .item (kept _ declared) found
  | additionalItems declared object => exact .additionalItems (kept _ declared) object
  | property declared member => exact .property (kept _ declared) member
  | additionalProperties declared object => exact .additionalProperties (kept _ declared) object

theorem Subschema.of_member?_eq {schema schema' sub : Json} {position : Position}
    (h : Subschema schema position sub)
    (same : schema'.member? position.keyword = schema.member? position.keyword) :
    Subschema schema' position sub :=
  h.mono fun _ declared => same.trans declared

namespace Json

theorem sizeOf_member?_lt {schema v : Json} {name : String} (found : schema.member? name = some v) :
    sizeOf v < sizeOf schema := by
  cases schema with
  | object members =>
    have inside := List.sizeOf_lt_of_mem (mem_of_lookup found)
    simp only [Prod.mk.sizeOf_spec, Json.object.sizeOf_spec] at inside ⊢
    omega
  | _ => cases found

theorem sizeOf_element_lt {elements : List Json} {i : Nat} {v : Json}
    (found : elements[i]? = some v) : sizeOf v < sizeOf (Json.array elements) := by
  have inside := List.sizeOf_lt_of_mem (List.mem_of_getElem? found)
  rw [Json.array.sizeOf_spec]
  omega

theorem sizeOf_value_lt {members : List (String × Json)} {name : String} {v : Json}
    (member : (name, v) ∈ members) : sizeOf v < sizeOf (Json.object members) := by
  have inside := List.sizeOf_lt_of_mem member
  simp only [Prod.mk.sizeOf_spec, Json.object.sizeOf_spec] at inside ⊢
  omega

end Json

theorem Subschema.sizeOf_lt {schema sub : Json} {position : Position}
    (h : Subschema schema position sub) : sizeOf sub < sizeOf schema := by
  cases h with
  | alternative declared found | disallowed declared found | item declared found =>
    exact Nat.lt_trans (Json.sizeOf_element_lt found) (Json.sizeOf_member?_lt declared)
  | property declared member =>
    exact Nat.lt_trans (Json.sizeOf_value_lt member) (Json.sizeOf_member?_lt declared)
  | items declared | additionalItems declared | additionalProperties declared =>
    exact Json.sizeOf_member?_lt declared

theorem Subschema.induction {P : Json → Prop}
    (step : ∀ schema, (∀ position sub, Subschema schema position sub → P sub) → P schema)
    (schema : Json) : P schema :=
  step schema fun _ sub _ => Subschema.induction step sub
termination_by sizeOf schema
decreasing_by exact Subschema.sizeOf_lt ‹_›

namespace Json

def additional? (schema : Json) (keyword : String) : Option Json :=
  (schema.member? keyword).filter isObject

def property? (schema : Json) (name : String) : Option Json :=
  (schema.member? "properties").bind (·.member? name)

def memberSchema? (schema : Json) (name : String) : Option Json :=
  (schema.property? name).or (schema.additional? "additionalProperties")

def elementSchema? (schema : Json) (place : Nat) : Option Json :=
  match schema.member? "items" with
  | some (.array elements) => elements[place]?.or (schema.additional? "additionalItems")
  | items => items.filter isObject

def schemaAt? (schema : Json) : Step → Option Json
  | .key name => schema.memberSchema? name
  | .index place => schema.elementSchema? place

theorem additional?_eq_some_iff (schema : Json) (keyword : String) (sub : Json) :
    schema.additional? keyword = some sub ↔
      schema.member? keyword = some sub ∧ sub.isObject = true := by
  simp [additional?, Option.filter_eq_some_iff]

theorem subschema_of_memberSchema? {schema sub : Json} {name : String}
    (applies : schema.memberSchema? name = some sub) :
    ∃ position, Subschema schema position sub := by
  rcases Option.or_eq_some_iff.1 applies with property | ⟨_, additional⟩
  · rw [property?] at property
    obtain ⟨properties, declared, found⟩ := Option.bind_eq_some_iff.1 property
    cases properties with
    | object members => exact ⟨_, .property declared (mem_of_lookup found)⟩
    | _ => cases found
  · obtain ⟨declared, object⟩ := (additional?_eq_some_iff ..).1 additional
    exact ⟨_, .additionalProperties declared object⟩

theorem subschema_of_elementSchema? {schema sub : Json} {place : Nat}
    (applies : schema.elementSchema? place = some sub) :
    ∃ position, Subschema schema position sub := by
  unfold elementSchema? at applies
  split at applies
  next elements declared =>
    rcases Option.or_eq_some_iff.1 applies with found | ⟨_, additional⟩
    · exact ⟨_, .item declared found⟩
    · obtain ⟨declared, object⟩ := (additional?_eq_some_iff ..).1 additional
      exact ⟨_, .additionalItems declared object⟩
  next =>
    obtain ⟨declared, object⟩ := Option.filter_eq_some_iff.1 applies
    exact ⟨_, .items declared object⟩

theorem subschema_of_schemaAt? {schema sub : Json} {step : Step}
    (applies : schema.schemaAt? step = some sub) : ∃ position, Subschema schema position sub := by
  cases step with
  | key name => exact subschema_of_memberSchema? applies
  | index place => exact subschema_of_elementSchema? applies

theorem sizeOf_schemaAt?_lt {schema sub : Json} {step : Step}
    (applies : schema.schemaAt? step = some sub) : sizeOf sub < sizeOf schema := by
  obtain ⟨position, inside⟩ := subschema_of_schemaAt? applies
  exact inside.sizeOf_lt

end Json

end JsonSchema
