import JsonSchema.Proofs.Subschema
import JsonSchema.TypeSet

set_option autoImplicit false

namespace JsonSchema

abbrev Kinds := Kind → Prop

def Kinds.without (a b : Kinds) : Kinds := fun k =>
  a k ∧ ¬b k ∧ (k = .integer → ¬b .number)

def Kinds.Admits (a : Kinds) (k : Kind) : Prop := a k ∨ k = .integer ∧ a .number

theorem Kinds.without_congr {a a' b b' : Kinds} (left : ∀ k, a k ↔ a' k) (right : ∀ k, b k ↔ b' k)
    (k : Kind) : a.without b k ↔ a'.without b' k := by
  simp only [Kinds.without, left, right]

theorem Kinds.without_mono {a a' b b' : Kinds} (left : ∀ k, a k → a' k) (right : ∀ k, b k ↔ b' k)
    {k : Kind} (member : a.without b k) : a'.without b' k := by
  simp only [Kinds.without, right] at member ⊢
  exact member.imp_left (left k)

theorem Kinds.admits_congr {a b : Kinds} (same : ∀ k, a k ↔ b k) (k : Kind) :
    a.Admits k ↔ b.Admits k := by
  simp only [Kinds.Admits, same]

theorem Kinds.without_iff_of_empty {a b : Kinds} (empty : ∀ k, ¬b k) (k : Kind) :
    a.without b k ↔ a k := by
  simp [Kinds.without, empty]

section Without

variable {a b : Kinds} {k : Kind}

theorem Kinds.admits_without_of_ne (other : k ≠ .integer) :
    (a.without b).Admits k ↔ a k ∧ ¬b k := by
  simp [Kinds.Admits, Kinds.without, other]

-- Integers go with the numbers, and stay as long as the numbers do.
theorem Kinds.admits_without_integer :
    (a.without b).Admits .integer ↔ ¬b .number ∧ (a .number ∨ a .integer ∧ ¬b .integer) := by
  by_cases numbers : b .number <;> simp [Kinds.Admits, Kinds.without, numbers, or_comm]

theorem Kinds.admits_without_iff_of_kept (kept : ¬b k) (numbers : ¬(k = .integer ∧ b .number)) :
    (a.without b).Admits k ↔ a.Admits k := by
  by_cases integer : k = .integer
  · subst integer
    have kept' : ¬b .number := fun taken => numbers ⟨rfl, taken⟩
    rw [Kinds.admits_without_integer, Kinds.Admits]
    simp [kept, kept', or_comm]
  · rw [Kinds.admits_without_of_ne integer, Kinds.Admits]
    simp [kept, integer]

end Without

-- Taking kinds away keeps apart what was put together: the law behind every union of types.
theorem Kinds.admits_without_or {a b c d : Kinds} (split : ∀ k, a k → b k ∨ c k) {k : Kind}
    (admitted : (a.without d).Admits k) : (b.without d).Admits k ∨ c.Admits k := by
  rcases admitted with ⟨member, kept, whole⟩ | ⟨rfl, member, kept, whole⟩
  · rcases split k member with left | right
    · exact .inl (.inl ⟨left, kept, whole⟩)
    · exact .inr (.inl right)
  · rcases split .number member with left | right
    · exact .inl (.inr ⟨rfl, left, kept, whole⟩)
    · exact .inr (.inr ⟨rfl, right⟩)

namespace TypeSet

def kinds (s : TypeSet) : Kinds := fun k => s.contains k = true

@[simp] theorem kinds_all (k : Kind) : all.kinds k := contains_all k

@[simp] theorem not_kinds_empty (k : Kind) : ¬empty.kinds k := by simp [kinds]

@[simp] theorem kinds_union (a b : TypeSet) (k : Kind) :
    (a.union b).kinds k ↔ a.kinds k ∨ b.kinds k := by simp [kinds]

theorem kinds_without (a b : TypeSet) (k : Kind) :
    (a.without b).kinds k ↔ a.kinds.without b.kinds k := by
  by_cases integer : k = .integer <;> simp [kinds, Kinds.without, contains_without, integer]

theorem admits_iff (s : TypeSet) (k : Kind) : s.admits k = true ↔ s.kinds.Admits k := by
  cases k <;> simp [admits, kinds, Kinds.Admits]

theorem admits_mono {a b : TypeSet} (le : ∀ k, a.kinds k → b.kinds k) {k : Kind}
    (admitted : a.admits k = true) : b.admits k = true := by
  rw [admits_iff] at admitted ⊢
  exact admitted.imp (le k) (And.imp_right (le .number))

theorem isEmpty_eq_false_iff (s : TypeSet) : s.isEmpty = false ↔ ∃ k, s.kinds k := by
  rw [← Bool.not_eq_true, isEmpty_iff]
  simp [kinds]

end TypeSet

def Names (text : String) (k : Kind) : Prop := text = "any" ∨ text = k.name

def IsTypeName (text : String) : Prop := text = "any" ∨ ∃ k : Kind, text = k.name

theorem TypeName.parse_eq_ok_iff (text : String) (n : TypeName) :
    TypeName.parse text = .ok n ↔ text = n.name := by
  constructor
  · intro parsed
    unfold TypeName.parse Kind.parse at parsed
    split at parsed
    next any =>
      cases parsed
      exact any
    next =>
      split at parsed
      next k found =>
        cases parsed
        exact (Kind.name_of_ofName? found).symm
      next => cases parsed
  · intro same
    subst same
    exact parse_name n

theorem TypeName.exists_parse_iff (text : String) :
    (∃ n, TypeName.parse text = .ok n) ↔ IsTypeName text := by
  simp only [parse_eq_ok_iff]
  constructor
  · intro parses
    obtain ⟨n, named⟩ := parses
    cases n with
    | any => exact .inl named
    | kind k => exact .inr ⟨k, named⟩
  · intro proper
    rcases proper with any | ⟨k, named⟩
    · exact ⟨.any, any⟩
    · exact ⟨.kind k, named⟩

theorem names_name_iff (j k : Kind) : Names j.name k ↔ j = k := by
  have proper : j.name ≠ "any" := by cases j <;> decide
  rw [Names, or_iff_right proper]
  exact ⟨Kind.name_injective, congrArg Kind.name⟩

theorem TypeSet.kinds_ofName (n : TypeName) (k : Kind) :
    (TypeSet.ofName n).kinds k ↔ Names n.name k := by
  cases n with
  | any => simp [ofName, Names, TypeName.name]
  | kind j => simp [kinds, ofName, TypeName.name, names_name_iff]

namespace Json

def names (value : Json) : Kinds := fun k =>
  match value with
  | .string text => Names text k
  | .array elements => ∃ text, .string text ∈ elements ∧ Names text k
  | _ => False

def namedKinds (schema : Json) : Kinds := fun k =>
  schema.member? "type" = none ∨ ∃ value, schema.member? "type" = some value ∧ value.names k

-- Nested schemas count with the kinds they allow themselves, so the three sets are one recursion.
mutual

def allowedKinds (schema : Json) : Kinds :=
  (declaredKinds schema).without (disallowedKinds schema)
termination_by (sizeOf schema, 1)

def declaredKinds (schema : Json) : Kinds := fun k =>
  schema.namedKinds k ∨
    ∃ place sub, ∃ _ : Subschema schema (.alternative place) sub, allowedKinds sub k
termination_by (sizeOf schema, 0)
decreasing_by exact Prod.Lex.left _ _ (Subschema.sizeOf_lt ‹_›)

def disallowedKinds (schema : Json) : Kinds := fun k =>
  (∃ value, schema.member? "disallow" = some value ∧ value.names k) ∨
    ∃ place sub, ∃ _ : Subschema schema (.disallowed place) sub, allowedKinds sub k
termination_by (sizeOf schema, 0)
decreasing_by exact Prod.Lex.left _ _ (Subschema.sizeOf_lt ‹_›)

end

def grantedKinds (schema : Json) : Kinds := schema.namedKinds.without schema.disallowedKinds

theorem not_disallowedKinds_of_absent {schema : Json} (absent : schema.member? "disallow" = none)
    (k : Kind) : ¬schema.disallowedKinds k := by
  rw [disallowedKinds]
  intro disallowed
  rcases disallowed with ⟨value, declared, _⟩ | ⟨place, sub, inside, _⟩
  · rw [absent] at declared
    cases declared
  · cases inside with
    | disallowed declared =>
      rw [absent] at declared
      cases declared

section Congruence

variable {schema schema' : Json}

theorem declaredKinds_congr (same : schema.member? "type" = schema'.member? "type") (k : Kind) :
    schema.declaredKinds k ↔ schema'.declaredKinds k := by
  rw [declaredKinds, declaredKinds, namedKinds, namedKinds, same]
  refine or_congr_right (exists_congr fun place => exists_congr fun sub => ?_)
  exact ⟨fun ⟨inside, allowed⟩ => ⟨inside.of_member?_eq same.symm, allowed⟩,
    fun ⟨inside, allowed⟩ => ⟨inside.of_member?_eq same, allowed⟩⟩

theorem disallowedKinds_congr (same : schema.member? "disallow" = schema'.member? "disallow")
    (k : Kind) : schema.disallowedKinds k ↔ schema'.disallowedKinds k := by
  rw [disallowedKinds, disallowedKinds, same]
  refine or_congr_right (exists_congr fun place => exists_congr fun sub => ?_)
  exact ⟨fun ⟨inside, allowed⟩ => ⟨inside.of_member?_eq same.symm, allowed⟩,
    fun ⟨inside, allowed⟩ => ⟨inside.of_member?_eq same, allowed⟩⟩

theorem allowedKinds_congr (type : schema.member? "type" = schema'.member? "type")
    (disallow : schema.member? "disallow" = schema'.member? "disallow") (k : Kind) :
    schema.allowedKinds k ↔ schema'.allowedKinds k := by
  rw [allowedKinds, allowedKinds]
  exact Kinds.without_congr (declaredKinds_congr type) (disallowedKinds_congr disallow) k

end Congruence

structure TypesWithin (schema schema' : Json) : Prop where
  unset : schema.member? "type" = none → schema'.member? "type" = none
  names : ∀ keyword k, (∃ value, schema.member? keyword = some value ∧ value.names k) →
    ∃ value, schema'.member? keyword = some value ∧ value.names k
  nested : ∀ position sub, Subschema schema position sub →
    ∃ position' sub', position.Corresponds position' ∧ Subschema schema' position' sub' ∧
      ∀ k, sub.allowedKinds k → sub'.allowedKinds k

section Within

variable {schema schema' : Json}

theorem TypesWithin.namedKinds (within : schema.TypesWithin schema') {k : Kind}
    (named : schema.namedKinds k) : schema'.namedKinds k :=
  named.imp within.unset (within.names "type" k)

theorem TypesWithin.declaredKinds (within : schema.TypesWithin schema') {k : Kind}
    (declared : schema.declaredKinds k) : schema'.declaredKinds k := by
  rw [Json.declaredKinds] at declared ⊢
  refine declared.imp within.namedKinds fun nested => ?_
  obtain ⟨place, sub, inside, allowed⟩ := nested
  obtain ⟨_, sub', same, there, grows⟩ := within.nested _ sub inside
  cases same with
  | refl => exact ⟨place, sub', there, grows k allowed⟩
  | alternative _ place' => exact ⟨place', sub', there, grows k allowed⟩

theorem TypesWithin.disallowedKinds (within : schema.TypesWithin schema') {k : Kind}
    (disallowed : schema.disallowedKinds k) : schema'.disallowedKinds k := by
  rw [Json.disallowedKinds] at disallowed ⊢
  refine disallowed.imp (within.names "disallow" k) fun nested => ?_
  obtain ⟨place, sub, inside, allowed⟩ := nested
  obtain ⟨_, sub', same, there, grows⟩ := within.nested _ sub inside
  cases same with
  | refl => exact ⟨place, sub', there, grows k allowed⟩
  | disallowed _ place' => exact ⟨place', sub', there, grows k allowed⟩

variable (forth : schema.TypesWithin schema') (back : schema'.TypesWithin schema)
include forth back

theorem allowedKinds_iff_of_within (k : Kind) : schema.allowedKinds k ↔ schema'.allowedKinds k := by
  rw [allowedKinds, allowedKinds]
  exact Kinds.without_congr (fun _ => ⟨forth.declaredKinds, back.declaredKinds⟩)
    (fun _ => ⟨forth.disallowedKinds, back.disallowedKinds⟩) k

theorem grantedKinds_iff_of_within (k : Kind) : schema.grantedKinds k ↔ schema'.grantedKinds k :=
  Kinds.without_congr (fun _ => ⟨forth.namedKinds, back.namedKinds⟩)
    (fun _ => ⟨forth.disallowedKinds, back.disallowedKinds⟩) k

end Within

end Json

end JsonSchema
