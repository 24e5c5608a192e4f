import JsonSchema.SchemaError
import JsonSchema.Options

set_option autoImplicit false

namespace JsonSchema

inductive Failure where
  | schema (cause : SchemaError)
  | options (cause : OptionError)
  | validation (messages : List String)
deriving DecidableEq

def Failure.message : Failure → String
  | .schema cause => "invalid schema: " ++ cause.message
  | .options cause => "configuration error: " ++ cause.message
  | .validation messages => "validation failed:\n" ++ "\n".intercalate messages

end JsonSchema
