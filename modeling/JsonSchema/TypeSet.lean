import JsonSchema.Kind

set_option autoImplicit false

namespace JsonSchema

structure TypeSet where
  bits : BitVec 7
deriving DecidableEq

namespace TypeSet

def empty : TypeSet := ⟨0⟩

def all : TypeSet := ⟨BitVec.allOnes 7⟩

def of (k : Kind) : TypeSet := ⟨BitVec.twoPow 7 k.index⟩

/-- Whether a kind is a member, with no regard to integers being numbers. -/
def contains (s : TypeSet) (k : Kind) : Bool := s.bits.getLsbD k.index

def ofName : TypeName → TypeSet
  | .any => all
  | .kind k => of k

def union (a b : TypeSet) : TypeSet := ⟨a.bits ||| b.bits⟩

def inter (a b : TypeSet) : TypeSet := ⟨a.bits &&& b.bits⟩

def without (a b : TypeSet) : TypeSet :=
  let removed := if b.contains .number then b.union (of .integer) else b
  ⟨a.bits &&& ~~~removed.bits⟩

def isEmpty (s : TypeSet) : Bool := s.bits == 0

def ofList (kinds : List Kind) : TypeSet := kinds.foldl (fun s k => s.union (of k)) empty

def toList (s : TypeSet) : List Kind := Kind.all.filter s.contains

def size (s : TypeSet) : Nat := s.toList.length

def admits (s : TypeSet) : Kind → Bool
  | .integer => s.contains .integer || s.contains .number
  | k => s.contains k

def admitsValue (s : TypeSet) (v : Json) : Bool := s.admits (Kind.of v)

def write (s : TypeSet) : String := "[" ++ ", ".intercalate (s.toList.map Kind.name) ++ "]"

@[simp] theorem contains_empty (k : Kind) : empty.contains k = false := by
  simp [contains, empty]

@[simp] theorem contains_all (k : Kind) : all.contains k = true := by
  cases k <;> rfl

@[simp] theorem contains_of (j k : Kind) : (of j).contains k = decide (j = k) := by
  cases j <;> cases k <;> rfl

@[simp] theorem contains_union (a b : TypeSet) (k : Kind) :
    (a.union b).contains k = (a.contains k || b.contains k) := by
  simp [contains, union]

@[simp] theorem contains_inter (a b : TypeSet) (k : Kind) :
    (a.inter b).contains k = (a.contains k && b.contains k) := by
  simp [contains, inter]

theorem contains_without (a b : TypeSet) (k : Kind) :
    (a.without b).contains k =
      (a.contains k && !(b.contains k || (decide (k = .integer) && b.contains .number))) := by
  have h : ∀ r : TypeSet, (⟨a.bits &&& ~~~r.bits⟩ : TypeSet).contains k
      = (a.contains k && !r.contains k) := fun r => by simp [contains]
  rw [without, h]
  cases hb : b.contains .number <;> simp [eq_comm]

theorem ext {a b : TypeSet} (h : ∀ k, a.contains k = b.contains k) : a = b := by
  cases a; cases b
  congr 1
  apply BitVec.eq_of_getLsbD_eq
  intro i hi
  obtain ⟨k, hk⟩ := Kind.exists_index_eq ⟨i, hi⟩
  have hki : (k.index : Nat) = i := congrArg Fin.val hk
  simpa only [contains, hki] using h k

@[simp] theorem without_empty (s : TypeSet) : s.without empty = s :=
  ext fun k => by simp [contains_without]

theorem isEmpty_iff (s : TypeSet) : s.isEmpty = true ↔ ∀ k, s.contains k = false := by
  constructor
  · intro h k
    have : s.bits = 0 := by simpa [isEmpty] using h
    simp [contains, this]
  · intro h
    have : s = empty := ext (by simpa using h)
    simp [this, isEmpty, empty]

theorem mem_toList (s : TypeSet) (k : Kind) : k ∈ s.toList ↔ s.contains k = true := by
  simp [toList, Kind.mem_all]

theorem admits_of_contains {s : TypeSet} {k : Kind} (h : s.contains k = true) :
    s.admits k = true := by
  cases k <;> simp_all [admits]

@[simp] theorem admits_union (a b : TypeSet) (k : Kind) :
    (a.union b).admits k = (a.admits k || b.admits k) := by
  cases k <;> simp [admits, Bool.or_assoc, Bool.or_left_comm]

@[simp] theorem admits_all (k : Kind) : all.admits k = true :=
  admits_of_contains (contains_all k)

@[simp] theorem admits_empty (k : Kind) : empty.admits k = false := by
  cases k <;> simp [admits]

theorem contains_ofList (kinds : List Kind) (k : Kind) :
    (ofList kinds).contains k = decide (k ∈ kinds) := by
  have go : ∀ s : TypeSet, (kinds.foldl (fun s k => s.union (of k)) s).contains k
      = (s.contains k || decide (k ∈ kinds)) := by
    induction kinds with
    | nil => simp
    | cons head rest ih =>
      intro s
      simp [ih, Bool.or_assoc, eq_comm]
  simpa [ofList] using go empty

end TypeSet

end JsonSchema
