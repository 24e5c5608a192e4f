import JsonSchema.Schema
import JsonSchema.Json.Equal

set_option autoImplicit false

namespace JsonSchema

open Keyword (Members)

def messageIf (condition : Bool) (message : String) : List String :=
  if condition then [message] else []

variable [PatternEngine]

namespace ValueRules

def minimumMessages (shown : String) (value : Binary64) : Option Bound → List String
  | none => []
  | some bound =>
    let limit := NumberStyle.limit.write bound.limit
    if bound.exclusive && value.units ≤ bound.limit.units then
      ["number " ++ shown ++ " is not strictly greater than the required minimum " ++ limit]
    else
      messageIf (value.units < bound.limit.units)
        ("number " ++ shown ++ " is lower than the required minimum " ++ limit)

def maximumMessages (shown : String) (value : Binary64) : Option Bound → List String
  | none => []
  | some bound =>
    let limit := NumberStyle.limit.write bound.limit
    if bound.exclusive && bound.limit.units ≤ value.units then
      ["number " ++ shown ++ " is not strictly lower than the required maximum " ++ limit]
    else
      messageIf (bound.limit.units < value.units)
        ("number " ++ shown ++ " is greater than the required maximum " ++ limit)

def divisorMessages (n : Number) : Option Number → List String
  | none => []
  | some divisor =>
    messageIf (!n.isMultiple divisor)
      ("number " ++ n.write ++ " is not a multiple of " ++ divisor.write)

def numberMessages (r : ValueRules) (n : Number) : List String :=
  minimumMessages n.write n.toBinary64 r.minimum ++ maximumMessages n.write n.toBinary64 r.maximum
    ++ divisorMessages n r.divisor

def minLengthMessages (length : Nat) : Option Nat → List String
  | none => []
  | some least =>
    messageIf (length < least)
      ("string is too short (length " ++ toString length ++ ", minimum " ++ toString least ++ ")")

def maxLengthMessages (length : Nat) : Option Nat → List String
  | none => []
  | some greatest =>
    messageIf (greatest < length)
      ("string is too long (length " ++ toString length ++ ", maximum " ++ toString greatest ++ ")")

def patternMessages (text : String) : Option Pattern → List String
  | none => []
  | some pattern =>
    messageIf (!pattern.accepts text) ("string does not match regex " ++ pattern.source)

def stringMessages (r : ValueRules) (text : String) : List String :=
  minLengthMessages text.length r.minLength ++ maxLengthMessages text.length r.maxLength
    ++ patternMessages text r.pattern

def minItemsMessages (length : Nat) : Option Nat → List String
  | none => []
  | some least =>
    messageIf (length < least)
      ("array has too few elements (" ++ toString length ++ ", minimum " ++ toString least ++ ")")

def maxItemsMessages (length : Nat) : Option Nat → List String
  | none => []
  | some greatest =>
    messageIf (greatest < length)
      ("array has too many elements (" ++ toString length ++ ", maximum " ++ toString greatest ++ ")")

def uniqueMessages (r : ValueRules) (elements : List Json) : List String :=
  messageIf (r.uniqueItems && Json.hasDuplicate elements) "array elements are not unique"

def arrayMessages (r : ValueRules) (elements : List Json) : List String :=
  minItemsMessages elements.length r.minItems ++ maxItemsMessages elements.length r.maxItems
    ++ r.uniqueMessages elements

end ValueRules

namespace Schema

def tupleMessages (s : Schema) (elements : List Json) : List String :=
  match s.items, s.additionalItems with
  | .tuple schemas, .forbidden =>
    messageIf (schemas.length < elements.length)
      ("additional items are not allowed (tuple of " ++ toString schemas.length ++ ", found "
        ++ toString elements.length ++ ")")
  | _, _ => []

def requiredMessages (s : Schema) (members : Members) : List String :=
  (s.properties.filter fun (name, property) =>
      property.required && (members.lookup name).isNone).map
    fun (name, _) => "required property " ++ name ++ " is missing"

def additionalMessages (s : Schema) (members : Members) : List String :=
  match s.additionalProperties with
  | .forbidden =>
    (members.filter fun (name, _) => (s.properties.lookup name).isNone).map
      fun (name, _) => "additional property " ++ name ++ " is not allowed"
  | _ => []

def messages (s : Schema) : Json → List String
  | .null => []
  | .bool _ => []
  | .number n => s.rules.numberMessages n
  | .string text => s.rules.stringMessages text
  | .array elements => s.rules.arrayMessages elements ++ s.tupleMessages elements
  | .object members => s.requiredMessages members ++ s.additionalMessages members

end Schema

end JsonSchema
