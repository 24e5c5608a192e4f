import JsonSchema.TypeSet
import JsonSchema.Keyword.Basic

set_option autoImplicit false

namespace JsonSchema

inductive Items (α : Type) where
  | any
  | uniform (schema : α)
  | tuple (schemas : List α)

inductive Additional (α : Type) where
  | allowed
  | forbidden
  | schema (schema : α)

def Additional.schema? {α : Type} : Additional α → Option α
  | .schema s => some s
  | _ => none

variable [PatternEngine]

structure Schema where
  raw : Json
  allowed : TypeSet
  named : TypeSet
  enumeration : Option (List Json)
  alternatives : List (Nat × Schema)
  rules : ValueRules
  items : Items Schema
  additionalItems : Additional Schema
  required : Bool
  properties : List (String × Schema)
  additionalProperties : Additional Schema

namespace Schema

def alternative? (s : Schema) (place : Nat) : Option Schema := s.alternatives.lookup place

def propertySchema? (s : Schema) (name : String) : Option Schema :=
  (s.properties.lookup name).or s.additionalProperties.schema?

def itemSchema? (s : Schema) (place : Nat) : Option Schema :=
  match s.items with
  | .any => none
  | .uniform schema => some schema
  | .tuple schemas => schemas[place]?.or s.additionalItems.schema?

end Schema

end JsonSchema
