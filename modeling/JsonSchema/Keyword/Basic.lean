import JsonSchema.Json.Basic
import JsonSchema.SchemaError
import JsonSchema.Pattern

set_option autoImplicit false

namespace JsonSchema

structure Bound where
  limit : Binary64
  exclusive : Bool

variable [PatternEngine]

structure ValueRules where
  minimum : Option Bound
  maximum : Option Bound
  divisor : Option Number
  minLength : Option Nat
  maxLength : Option Nat
  pattern : Option Pattern
  minItems : Option Nat
  maxItems : Option Nat
  uniqueItems : Bool

namespace Keyword

abbrev Members := List (String × Json)

def number? (members : Members) (keyword : String) : Except SchemaError (Option Number) :=
  match members.lookup keyword with
  | none => .ok none
  | some (.number n) => .ok (some n)
  | some _ => .error (.badKeyword keyword "a number")

/-- A number greater than zero; its sign is that of its binary64 value. -/
def divisor? (members : Members) (keyword : String) : Except SchemaError (Option Number) := do
  match ← number? members keyword with
  | none => return none
  | some n =>
    if n.toBinary64.units ≤ 0 then throw (.badKeyword keyword "a number greater than zero")
    return some n

def count? (members : Members) (keyword : String) : Except SchemaError (Option Nat) :=
  match members.lookup keyword with
  | none => .ok none
  | some (.number n) =>
    match n.count? with
    | some count => .ok (some count)
    | none => .error (.badKeyword keyword "a non-negative integer")
  | some _ => .error (.badKeyword keyword "a non-negative integer")

def flag (members : Members) (keyword : String) : Except SchemaError Bool :=
  match members.lookup keyword with
  | none => .ok false
  | some (.bool b) => .ok b
  | some _ => .error (.badKeyword keyword "a boolean")

def pattern? (members : Members) (keyword : String) : Except SchemaError (Option Pattern) :=
  match members.lookup keyword with
  | none => .ok none
  | some (.string source) =>
    match Pattern.compile source with
    | .ok pattern => .ok (some pattern)
    | .error reason => .error (.badPattern source reason)
  | some _ => .error (.badKeyword keyword "a string")

def enumeration? (members : Members) : Except SchemaError (Option (List Json)) :=
  match members.lookup "enum" with
  | none => .ok none
  | some (.array values) => .ok (some values)
  | some _ => .error .enumShape

end Keyword

open Keyword in
def ValueRules.read (members : Members) : Except SchemaError ValueRules := do
  let minimum ← number? members "minimum"
  let exclusiveMinimum ← flag members "exclusiveMinimum"
  let maximum ← number? members "maximum"
  let exclusiveMaximum ← flag members "exclusiveMaximum"
  let divisor ← divisor? members "divisibleBy"
  let minLength ← count? members "minLength"
  let maxLength ← count? members "maxLength"
  let pattern ← pattern? members "pattern"
  let minItems ← count? members "minItems"
  let maxItems ← count? members "maxItems"
  let uniqueItems ← flag members "uniqueItems"
  return {
    minimum := minimum.map fun n => ⟨n.toBinary64, exclusiveMinimum⟩
    maximum := maximum.map fun n => ⟨n.toBinary64, exclusiveMaximum⟩
    divisor, minLength, maxLength, pattern, minItems, maxItems, uniqueItems }

end JsonSchema
