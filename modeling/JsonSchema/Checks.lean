import JsonSchema.Visit

set_option autoImplicit false

namespace JsonSchema.Checks

variable [PatternEngine]

def nonEmptyStrings : Check := fun _ v _ =>
  match v with
  | .string "" => ["string is empty"]
  | _ => []

def visited : Check := fun s v p =>
  ["visited " ++ p.write ++ " as " ++ (Kind.of v).name ++ " under " ++ s.allowed.write]

def arrayExtent : Check := fun _ v p =>
  match v with
  | .array elements => ["depth " ++ toString p.depth, "size " ++ toString elements.length]
  | _ => []

def keywords : Check := fun s v _ => s.messages v

end JsonSchema.Checks
