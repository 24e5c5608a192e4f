import JsonSchema.Text.Blank
import JsonSchema.Text.Quoted

set_option autoImplicit false

namespace JsonSchema

structure Options where
  structural : Bool
  maxDepth : Nat
deriving DecidableEq

structure OptionError where
  setting : String
  value : String
  expected : String
deriving DecidableEq

def OptionError.message (e : OptionError) : String :=
  "invalid value " ++ Text.Quoted.write e.value ++ " for " ++ e.setting ++ ": expected " ++ e.expected

namespace Options

def default : Options := ⟨true, 64⟩

def structuralSetting : String := "JASON_STRUCTURAL_KEYWORDS"

def maxDepthSetting : String := "JASON_MAX_DEPTH"

def readFlag? (text : String) : Option Bool :=
  let word := Text.trim text.toList
  if word = "true".toList ∨ word = "1".toList then some true
  else if word = "false".toList ∨ word = "0".toList then some false
  else none

def readDigits? (digits : List Char) : Option Nat :=
  if digits ≠ [] ∧ digits.all (fun c => '0' ≤ c && c ≤ '9') then
    some (digits.foldl (fun n c => n * 10 + (c.toNat - '0'.toNat)) 0)
  else none

def readDepth? (text : String) : Option Nat :=
  let word := Text.trim text.toList
  let digits := if word.head? = some '+' then word.drop 1 else word
  (readDigits? digits).filter fun n => 0 < n && n < UInt64.size

def readSetting {α : Type} (lookup : String → Option String) (setting expected : String)
    (read? : String → Option α) (unset : α) : Except OptionError α :=
  match lookup setting with
  | none => .ok unset
  | some text =>
    match read? text with
    | some a => .ok a
    | none => .error ⟨setting, text, expected⟩

def load (lookup : String → Option String) : Except OptionError Options := do
  let structural ← readSetting lookup structuralSetting "true, false, 1 or 0" readFlag?
    default.structural
  let maxDepth ← readSetting lookup maxDepthSetting "a positive integer" readDepth?
    default.maxDepth
  return ⟨structural, maxDepth⟩

end Options

end JsonSchema
