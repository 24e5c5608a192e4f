set_option autoImplicit false

namespace JsonSchema.Pattern

structure Footprint where
  states : Nat
  bytes : Nat

namespace Footprint

def zero : Footprint := ⟨0, 0⟩

def addStates (n : Nat) (f : Footprint) : Footprint := ⟨f.states + n, f.bytes + 32 * n⟩

def addState (f : Footprint) : Footprint := f.addStates 1

def addChoice (ways : Nat) (f : Footprint) : Footprint := ⟨f.states + 1, f.bytes + 32 + 8 * ways⟩

def addWays (ways : Nat) (f : Footprint) : Footprint := { f with bytes := f.bytes + 4 * ways }

def addFork (ways : Nat) (f : Footprint) : Footprint := f.addState.addWays ways

def limit : Nat := 10485760

def isTooLarge (f : Footprint) : Bool := limit < f.bytes

def times (add : Footprint → Footprint) : Nat → Footprint → Footprint
  | 0, f => f
  | n + 1, f => if f.isTooLarge then f else times add n (add f)

end Footprint

end JsonSchema.Pattern
