set_option autoImplicit false

namespace JsonSchema

inductive SchemaError where
  | notObject
  | typeShape
  | typeElement
  | unknownType (name : String)
  | noTypes
  | enumShape
  | badKeyword (keyword expected : String)
  | badPattern (pattern reason : String)
deriving DecidableEq

def SchemaError.message : SchemaError → String
  | .notObject => "schema is not an object"
  | .typeShape => "type property is neither a string nor an array"
  | .typeElement => "non string or schema element in type property array"
  | .unknownType name => "unknown type " ++ name
  | .noTypes => "schema does not allow any type??"
  | .enumShape => "enum property is not an array"
  | .badKeyword keyword expected => keyword ++ " property must be " ++ expected
  | .badPattern pattern reason => "invalid regex " ++ pattern ++ ": " ++ reason

end JsonSchema
