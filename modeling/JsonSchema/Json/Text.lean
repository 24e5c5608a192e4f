import JsonSchema.Json.Basic

set_option autoImplicit false

namespace JsonSchema.Json

def hexDigits (n : Nat) : String := String.ofList (Nat.toDigits 16 n)

def escapeChar (c : Char) : String :=
  if c = '"' then "\\\""
  else if c = '\\' then "\\\\"
  else if c = '\n' then "\\n"
  else if c = '\r' then "\\r"
  else if c = '\t' then "\\t"
  else if c = '\x08' then "\\b"
  else if c = '\x0c' then "\\f"
  else if c.toNat < 0x20 then "\\u00" ++ (if c.toNat < 16 then "0" else "") ++ hexDigits c.toNat
  else c.toString

def quote (s : String) : String :=
  s.foldl (fun out c => out ++ escapeChar c) "\"" ++ "\""

mutual

def writeTo (out : String) : Json → String
  | .null => out ++ "null"
  | .bool true => out ++ "true"
  | .bool false => out ++ "false"
  | .number n => out ++ n.write
  | .string s => out ++ quote s
  | .array elements => writeElements (out ++ "[") true elements ++ "]"
  | .object members => writeMembers (out ++ "\x7b") true members ++ "\x7d"

def writeElements (out : String) (first : Bool) : List Json → String
  | [] => out
  | v :: rest => writeElements (writeTo (if first then out else out ++ ",") v) false rest

def writeMembers (out : String) (first : Bool) : List (String × Json) → String
  | [] => out
  | (key, v) :: rest =>
    writeMembers (writeTo ((if first then out else out ++ ",") ++ quote key ++ ":") v) false rest

end

def write (v : Json) : String := writeTo "" v

end JsonSchema.Json
