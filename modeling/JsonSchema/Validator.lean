import JsonSchema.Node
import JsonSchema.Pattern.Engine
import JsonSchema.Visit

set_option autoImplicit false

namespace JsonSchema

variable [PatternEngine]

structure Validator where
  root : Option Node
  options : Options
  checks : List Check
  last : Report

namespace Validator

def ofSchema? (raw : Option Json) : Validator := ⟨raw.map Node.compile, .default, [], .empty⟩

def ofSchema (raw : Json) : Validator := ofSchema? (some raw)

def check (validator : Validator) (v : Json) : Report :=
  match validator.root with
  | none => ⟨[⟨.noSchema, .root, "schema is null"⟩]⟩
  | some node =>
    match node.outcome with
    | .error cause => ⟨[⟨.schemaDefect, .root, cause.message⟩]⟩
    | .ok schema => ⟨schema.visit validator.options validator.checks v .root⟩

def validate (validator : Validator) (v : Json) : Validator :=
  { validator with last := validator.check v }

end Validator

end JsonSchema
