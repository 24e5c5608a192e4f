import JsonSchema.TypeSet

set_option autoImplicit false

namespace JsonSchema

inductive TypeElement where
  | name (name : TypeName)
  | anonymous (schema : Json)

inductive TypeSpec where
  | single (element : TypeElement)
  | union (elements : List TypeElement)

def TypeElement.parse : Json → Except SchemaError TypeElement
  | .string text => (TypeName.parse text).map .name
  | .object members => .ok (.anonymous (.object members))
  | _ => .error .typeElement

def TypeSpec.parse : Json → Except SchemaError TypeSpec
  | .string text => (TypeName.parse text).map fun n => .single (.name n)
  | .array elements => (elements.mapM TypeElement.parse).map .union
  | _ => .error .typeShape

end JsonSchema
