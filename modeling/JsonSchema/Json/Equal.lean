import JsonSchema.Json.Basic

set_option autoImplicit false

namespace JsonSchema.Json

mutual

def equals : Json → Json → Bool
  | .null, .null => true
  | .bool a, .bool b => a == b
  | .number a, .number b => a.sameValue b
  | .string a, .string b => a == b
  | .array as, .array bs => as.length == bs.length && equalElements as bs
  | .object as, .object bs => as.length == bs.length && equalMembers as bs
  | _, _ => false

def equalElements : List Json → List Json → Bool
  | a :: as, b :: bs => a.equals b && equalElements as bs
  | _, _ => true

def equalMembers : List (String × Json) → List (String × Json) → Bool
  | [], _ => true
  | (key, a) :: as, bs =>
    (match bs.lookup key with
      | some b => a.equals b
      | none => false) && equalMembers as bs

end

def hasDuplicate : List Json → Bool
  | [] => false
  | a :: rest => rest.any a.equals || hasDuplicate rest

end JsonSchema.Json
