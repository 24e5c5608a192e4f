set_option autoImplicit false

namespace JsonSchema

/-- The segments from the root on. An index is kept as its decimal text. -/
structure Pointer where
  segments : List String
deriving DecidableEq

namespace Pointer

def root : Pointer := ⟨[]⟩

def key (p : Pointer) (name : String) : Pointer := ⟨p.segments ++ [name]⟩

def index (p : Pointer) (i : Nat) : Pointer := p.key (toString i)

def depth (p : Pointer) : Nat := p.segments.length

def isRoot (p : Pointer) : Bool := p.segments.isEmpty

def write (p : Pointer) : String := p.segments.foldl (fun text segment => text ++ "/" ++ segment) "#"

@[simp] theorem depth_root : root.depth = 0 := rfl

@[simp] theorem depth_key (p : Pointer) (name : String) : (p.key name).depth = p.depth + 1 := by
  simp [depth, key]

@[simp] theorem depth_index (p : Pointer) (i : Nat) : (p.index i).depth = p.depth + 1 :=
  depth_key p _

theorem isRoot_iff (p : Pointer) : p.isRoot = true ↔ p = root := by
  cases p; simp [isRoot, root]

end Pointer

end JsonSchema
