import JsonSchema.Pattern
import JsonSchema.Pattern.Footprint
import JsonSchema.Pattern.Matcher
import JsonSchema.Pattern.Meaning
import JsonSchema.Pattern.Reader
import JsonSchema.Pattern.Vocabulary

set_option autoImplicit false

namespace JsonSchema.Pattern

def Regex.compile (source : String) : Except String Regex :=
  let compiled : Except Error (Regex × Flags) := do
    let tree ← Read.tree.run source
    Meaning.regex .initial tree
  match compiled with
  | .error e => .error (e.reason source)
  | .ok (regex, _) =>
    match Vocabulary.list? regex with
    | some words => .ok words
    | none =>
      if regex.fits then .ok regex
      else
        .error ("Compiled regex exceeds size limit of " ++ toString Footprint.limit ++ " bytes.")

instance engine : PatternEngine where
  Compiled := Regex
  compile := Regex.compile
  accepts regex text := regex.finds text.toList

end JsonSchema.Pattern
