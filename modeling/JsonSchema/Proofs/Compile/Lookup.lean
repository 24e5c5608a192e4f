import JsonSchema.Proofs.Compile.Inversion

set_option autoImplicit false

namespace JsonSchema

theorem rel_or {α β : Type} {R : α → β → Prop} {a a' : Option α} {b b' : Option β}
    (first : Option.Rel R a b) (second : Option.Rel R a' b') : Option.Rel R (a.or a') (b.or b') := by
  cases first with
  | none => simpa using second
  | some related => simpa using related

variable [PatternEngine]

namespace Schema

open Keyword

def at? (s : Schema) : Step → Option Schema
  | .key name => s.propertySchema? name
  | .index place => s.itemSchema? place

theorem IsAdditional.rel_schema? {raw : Json} {keyword : String} {additional : Additional Schema}
    (read : IsAdditional (raw.member? keyword) additional) :
    Option.Rel Compiles (raw.additional? keyword) additional.schema? := by
  unfold Json.additional?
  cases read with
  | allowed declared =>
    rcases declared with absent | declared
    · rw [absent]
      exact .none
    · rw [declared]
      exact .none
  | forbidden declared =>
    rw [declared]
    exact .none
  | schema declared object compiled =>
    rw [declared, Option.filter_some, if_pos object]
    exact .some compiled

theorem AreProperties.rel_lookup {raw : Json} {properties : List (String × Schema)}
    (read : AreProperties (raw.member? "properties") properties) (name : String) :
    Option.Rel Compiles (raw.property? name) (properties.lookup name) := by
  unfold Json.property?
  cases read with
  | absent absent =>
    rw [absent]
    exact .none
  | object declared compiled =>
    rw [declared]
    exact compiled.rel_lookup name

theorem Compiles.rel_propertySchema? {raw : Json} {s : Schema} (compiled : Compiles raw s)
    (name : String) : Option.Rel Compiles (raw.memberSchema? name) (s.propertySchema? name) := by
  obtain ⟨declared, disallowed, parts⟩ := compiles_iff.1 compiled
  exact rel_or (parts.properties.rel_lookup name) parts.additionalProperties.rel_schema?

theorem Compiles.rel_itemSchema? {raw : Json} {s : Schema} (compiled : Compiles raw s)
    (place : Nat) : Option.Rel Compiles (raw.elementSchema? place) (s.itemSchema? place) := by
  obtain ⟨declared, disallowed, parts⟩ := compiles_iff.1 compiled
  have read := parts.items
  unfold Json.elementSchema? itemSchema?
  generalize s.items = items at read
  cases read with
  | any absent =>
    rw [absent]
    exact .none
  | uniform declared object compiled =>
    obtain ⟨inner, rfl⟩ := (Json.isObject_iff _).1 object
    rw [declared]
    exact .some compiled
  | tuple declared compiled =>
    rw [declared]
    exact rel_or (rel_getElem?_of_forall₂ compiled place) parts.additionalItems.rel_schema?

theorem Compiles.rel_at? {raw : Json} {s : Schema} (compiled : Compiles raw s) (step : Step) :
    Option.Rel Compiles (raw.schemaAt? step) (s.at? step) := by
  cases step with
  | key name => exact compiled.rel_propertySchema? name
  | index place => exact compiled.rel_itemSchema? place

theorem Compiles.at?_eq_none_iff {raw : Json} {s : Schema} (compiled : Compiles raw s)
    (step : Step) : s.at? step = none ↔ raw.schemaAt? step = none := by
  have related := compiled.rel_at? step
  generalize raw.schemaAt? step = document, s.at? step = found at related
  cases related <;> simp

theorem Compiles.required_iff {raw : Json} {s : Schema} (compiled : Compiles raw s) :
    s.required = true ↔ raw.member? "required" = some (.bool true) := by
  obtain ⟨declared, disallowed, parts⟩ := compiles_iff.1 compiled
  exact parts.required.eq_true_iff

end Schema

end JsonSchema
