import JsonSchema.Text.Category
import JsonSchema.Text.Newer
import JsonSchema.Text.Property

set_option autoImplicit false

namespace JsonSchema.Text.Quoted

def fillers : CharSet := .ofRanges [(0x115F, 0x1160), (0x3164, 0x3164), (0xFFA0, 0xFFA0)]

-- Marks that change the character before them. The two halfwidth ones stand for themselves.
def extending : CharSet :=
  (((Property.find? "graphemeextend").getD .empty).union Newer.extending).diff
    (.ofRanges [(0xFF9E, 0xFF9F)])

def hidden : CharSet :=
  CharSet.unions
    [(Category.group ["cc", "cf", "co", "zl", "zp", "zs"]).diff (.ofChars [' ']),
      Category.unassigned.diff Newer.assigned, extending, fillers]

def escapeChar (c : Char) : String :=
  if c = '"' then "\\\""
  else if c = '\\' then "\\\\"
  else if c = '\n' then "\\n"
  else if c = '\r' then "\\r"
  else if c = '\t' then "\\t"
  else if c = '\x00' then "\\0"
  else if hidden.contains c then
    "\\u\x7b" ++ String.ofList (Nat.toDigits 16 c.toNat) ++ "\x7d"
  else c.toString

def write (text : String) : String :=
  text.foldl (fun out c => out ++ escapeChar c) "\"" ++ "\""

end JsonSchema.Text.Quoted
