set_option autoImplicit false

namespace JsonSchema

-- The regular expressions of strings are not fixed by a schema: how one is compiled, or why it
-- cannot be, and which texts it matches somewhere.
class PatternEngine where
  Compiled : Type
  compile : String → Except String Compiled
  accepts : Compiled → String → Bool

variable [PatternEngine]

structure Pattern where
  source : String
  compiled : PatternEngine.Compiled

namespace Pattern

def compile (source : String) : Except String Pattern :=
  (PatternEngine.compile source).map (⟨source, ·⟩)

def accepts (p : Pattern) (text : String) : Bool := PatternEngine.accepts p.compiled text

end Pattern

end JsonSchema
