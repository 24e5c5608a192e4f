import JsonSchema.Compile
import JsonSchema.Keyword.Check

set_option autoImplicit false

namespace JsonSchema

variable [PatternEngine]

structure Node where
  raw : Json
  outcome : Except SchemaError Schema

namespace Node

def compile (raw : Json) : Node := ⟨raw, Schema.compile raw⟩

def ofSchema (s : Schema) : Node := ⟨s.raw, .ok s⟩

def schema? (n : Node) : Option Schema := n.outcome.toOption

def isValid (n : Node) : Bool := n.schema?.isSome

def messages (n : Node) : List String :=
  match n.outcome with
  | .ok _ => []
  | .error cause => [cause.message]

def keywordMessages (n : Node) (v : Json) : List String :=
  match n.outcome with
  | .ok s => s.messages v
  | .error _ => []

end Node

end JsonSchema
