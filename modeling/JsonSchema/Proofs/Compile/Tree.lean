import JsonSchema.Node
import JsonSchema.Pattern.Engine
import JsonSchema.Proofs.Compile.Inversion

set_option autoImplicit false

namespace JsonSchema.Schema

section

variable [PatternEngine]

inductive Child (s : Schema) : Position → Schema → Prop where
  | alternative {place : Nat} {t : Schema} (member : (place, t) ∈ s.alternatives) :
      Child s (.alternative place) t
  | items {t : Schema} (items : s.items = .uniform t) : Child s .items t
  | item {schemas : List Schema} {place : Nat} {t : Schema} (items : s.items = .tuple schemas)
      (found : schemas[place]? = some t) : Child s (.item place) t
  | additionalItems {t : Schema} (additional : s.additionalItems = .schema t) :
      Child s .additionalItems t
  | property {name : String} {t : Schema} (member : (name, t) ∈ s.properties) :
      Child s (.property name) t
  | additionalProperties {t : Schema} (additional : s.additionalProperties = .schema t) :
      Child s .additionalProperties t

theorem Child.sizeOf_lt {s t : Schema} {position : Position} (child : Child s position t) :
    sizeOf t < sizeOf s := by
  obtain ⟨raw, allowed, named, enumeration, alternatives, rules, items, additionalItems, required,
    properties, additionalProperties⟩ := s
  rw [Schema.mk.sizeOf_spec]
  cases child with
  | alternative member | property member =>
    have inside := List.sizeOf_lt_of_mem member
    rw [Prod.mk.sizeOf_spec] at inside
    dsimp only at inside
    omega
  | items uniform =>
    obtain rfl : items = .uniform t := uniform
    rw [Items.uniform.sizeOf_spec]
    omega
  | item tuple found =>
    obtain rfl : items = .tuple _ := tuple
    have inside := List.sizeOf_lt_of_mem (List.mem_of_getElem? found)
    rw [Items.tuple.sizeOf_spec]
    omega
  | additionalItems additional =>
    obtain rfl : additionalItems = .schema t := additional
    rw [Additional.schema.sizeOf_spec]
    omega
  | additionalProperties additional =>
    obtain rfl : additionalProperties = .schema t := additional
    rw [Additional.schema.sizeOf_spec]
    omega

theorem induction {P : Schema → Prop}
    (step : ∀ s, (∀ position t, Child s position t → P t) → P s) (s : Schema) : P s :=
  step s fun _ t _ => induction step t
termination_by sizeOf s
decreasing_by exact Child.sizeOf_lt ‹_›

inductive Reachable (root : Schema) : Schema → Prop where
  | root : Reachable root root
  | child {s t : Schema} {position : Position} (reached : Reachable root s)
      (child : Child s position t) : Reachable root t

theorem Reachable.head {root t : Schema} (reached : Reachable root t) :
    t = root ∨ ∃ position s, Child root position s ∧ Reachable s t := by
  induction reached with
  | root => exact .inl rfl
  | @child s t position _ child ih =>
    rcases ih with rfl | ⟨first, u, top, below⟩
    · exact .inr ⟨position, t, child, .root⟩
    · exact .inr ⟨first, u, top, below.child child⟩

theorem Reachable.of_child {s t u : Schema} {position : Position} (child : Child s position t)
    (reached : Reachable t u) : Reachable s u := by
  induction reached with
  | root => exact .child .root child
  | child _ below ih => exact ih.child below

def Everywhere (root : Schema) (P : Schema → Prop) : Prop := ∀ s, Reachable root s → P s

theorem Everywhere.root {s : Schema} {P : Schema → Prop} (everywhere : s.Everywhere P) : P s :=
  everywhere s .root

theorem Everywhere.child {s t : Schema} {P : Schema → Prop} {position : Position}
    (everywhere : s.Everywhere P) (child : Child s position t) : t.Everywhere P :=
  fun u reached => everywhere u (.of_child child reached)

theorem everywhere_of_children {s : Schema} {P : Schema → Prop} (here : P s)
    (below : ∀ position t, Child s position t → t.Everywhere P) : s.Everywhere P := by
  intro u reached
  rcases reached.head with rfl | ⟨position, t, child, reached⟩
  · exact here
  · exact below position t child u reached

theorem Compiles.raw_eq {raw : Json} {s : Schema} (compiled : Compiles raw s) : s.raw = raw := by
  obtain ⟨declared, disallowed, parts⟩ := compiles_iff.1 compiled
  exact parts.source

theorem Compiles.child {raw : Json} {s t : Schema} {position : Position}
    (compiled : Compiles raw s) (child : Child s position t) :
    Subschema raw position t.raw ∧ Compiles t.raw t := by
  have place {sub : Json} (inside : Subschema raw position sub) (compiled : Compiles sub t) :
      Subschema raw position t.raw ∧ Compiles t.raw t := by
    rw [compiled.raw_eq]
    exact ⟨inside, compiled⟩
  obtain ⟨declared, disallowed, parts⟩ := compiles_iff.1 compiled
  cases child with
  | alternative member =>
    obtain ⟨sub, inside, compiled⟩ := (compiled.mem_alternatives_iff _ _).1 member
    exact place inside compiled
  | items items =>
    have read := parts.items
    rw [items] at read
    cases read with
    | uniform declared object compiled => exact place (.items declared object) compiled
  | @item _ i _ items found =>
    have read := parts.items
    rw [items] at read
    cases read with
    | tuple declared compiled =>
      have related := rel_getElem?_of_forall₂ compiled i
      rw [found] at related
      obtain ⟨sub, element, compiled⟩ := exists_of_rel_some related
      exact place (.item declared element) compiled
  | additionalItems additional =>
    have read := parts.additionalItems
    rw [additional] at read
    cases read with
    | schema declared object compiled => exact place (.additionalItems declared object) compiled
  | property member =>
    have read := parts.properties
    generalize s.properties = properties at read member
    cases read with
    | absent => cases member
    | object declared compiled =>
      obtain ⟨sub, inside, compiled⟩ := compiled.mem_right member
      exact place (.property declared inside) compiled
  | additionalProperties additional =>
    have read := parts.additionalProperties
    rw [additional] at read
    cases read with
    | schema declared object compiled =>
      exact place (.additionalProperties declared object) compiled

theorem Compiles.reachable {raw : Json} {root s : Schema} (compiled : Compiles raw root)
    (reached : Reachable root s) : Compiles s.raw s := by
  induction reached with
  | root =>
    rw [compiled.raw_eq]
    exact compiled
  | child _ child ih => exact (ih.child child).2

structure Invariant (s : Schema) : Prop where
  valid : (Node.compile s.raw).isValid = true
  silent : (Node.compile s.raw).messages = []
  recompiled : Node.compile s.raw = Node.ofSchema s
  allowed : s.allowed.isEmpty = false
  named : ∀ k, s.named.contains k = true → s.allowed.contains k = true
  covered : ∀ k, s.allowed.admits k = true → s.named.admits k = true ∨
    ∃ place t, (place, t) ∈ s.alternatives ∧ t.allowed.admits k = true
  places : ∀ place, place ∈ s.alternatives.map Prod.fst ↔ ∃ (elements : List Json) (element : Json),
    s.raw.member? "type" = some (.array elements) ∧ elements[place]? = some element ∧
      element.isObject = true
  ordered : (s.alternatives.map Prod.fst).Pairwise (· < ·)
  divisor : ∀ d, s.rules.divisor = some d → 0 < d.units
  children : ∀ position t, Child s position t → Subschema s.raw position t.raw

theorem Compiles.named_le {raw : Json} {s : Schema} (compiled : Compiles raw s) (k : Kind)
    (named : s.named.kinds k) : s.allowed.kinds k := by
  obtain ⟨declared, disallowed, parts⟩ := compiles_iff.1 compiled
  rw [parts.named, TypeSet.kinds_without] at named
  rw [parts.allowed, TypeSet.kinds_without]
  obtain ⟨member, kept⟩ := named
  exact ⟨(parts.type.types_iff k).2 (.inl member), kept⟩

-- A kind that is admitted without being granted by name is admitted by some alternative, also
-- where `disallow` takes integers away and leaves numbers.
theorem Compiles.covered {raw : Json} {s : Schema} (compiled : Compiles raw s) {k : Kind}
    (admitted : s.allowed.admits k = true) :
    s.named.admits k = true ∨
      ∃ place t, (place, t) ∈ s.alternatives ∧ t.allowed.admits k = true := by
  obtain ⟨declared, disallowed, parts⟩ := compiles_iff.1 compiled
  have total (k : Kind) :
      s.allowed.kinds k ↔ declared.types.kinds.without disallowed.types.kinds k := by
    rw [parts.allowed, TypeSet.kinds_without]
  have granted (k : Kind) :
      s.named.kinds k ↔ declared.named.kinds.without disallowed.types.kinds k := by
    rw [parts.named, TypeSet.kinds_without]
  rw [TypeSet.admits_iff, Kinds.admits_congr total] at admitted
  rw [TypeSet.admits_iff, Kinds.admits_congr granted]
  refine (Kinds.admits_without_or (fun k => (parts.type.types_iff k).1) admitted).imp_right ?_
  rw [← parts.alternatives]
  intro nested
  rcases nested with ⟨place, t, member, allowed⟩ | ⟨integer, place, t, member, allowed⟩
  · exact ⟨place, t, member, (TypeSet.admits_iff _ _).2 (.inl allowed)⟩
  · exact ⟨place, t, member, (TypeSet.admits_iff _ _).2 (.inr ⟨integer, allowed⟩)⟩

theorem Compiles.mem_places_iff {raw : Json} {s : Schema} (compiled : Compiles raw s)
    (place : Nat) :
    place ∈ s.alternatives.map Prod.fst ↔ ∃ (elements : List Json) (element : Json),
      raw.member? "type" = some (.array elements) ∧ elements[place]? = some element ∧
        element.isObject = true := by
  simp only [List.mem_map, Prod.exists, exists_and_right, exists_eq_right]
  constructor
  · intro member
    obtain ⟨t, member⟩ := member
    obtain ⟨sub, inside, _⟩ := (compiled.mem_alternatives_iff place t).1 member
    cases inside with
    | alternative declared found object => exact ⟨_, sub, declared, found, object⟩
  · intro declared
    obtain ⟨elements, element, declared, found, object⟩ := declared
    have inside := Subschema.alternative declared found object
    obtain ⟨t, nested⟩ := compiled.subschema inside
    exact ⟨t, (compiled.mem_alternatives_iff place t).2 ⟨element, inside, nested⟩⟩

theorem Compiles.divisor_pos {raw : Json} {s : Schema} (compiled : Compiles raw s) {d : Number}
    (divisor : s.rules.divisor = some d) : 0 < d.units := by
  obtain ⟨declared, disallowed, parts⟩ := compiles_iff.1 compiled
  have related := parts.rules.divisor
  rw [divisor] at related
  obtain ⟨v, _, _, positive⟩ := exists_of_rel_some related
  exact positive

theorem Compiles.invariant {s : Schema} (compiled : Compiles s.raw s) : Invariant s := by
  have recompiled : Node.compile s.raw = Node.ofSchema s := by
    rw [Node.compile, compiled, Node.ofSchema]
  obtain ⟨declared, disallowed, parts⟩ := compiles_iff.1 compiled
  exact {
    valid := by
      rw [recompiled]
      rfl
    silent := by
      rw [recompiled]
      rfl
    recompiled
    allowed := parts.nonempty
    named := compiled.named_le
    covered := fun _ => compiled.covered
    places := compiled.mem_places_iff
    ordered := by
      rw [parts.alternatives]
      exact parts.type.places_increase
    divisor := fun _ => compiled.divisor_pos
    children := fun _ _ child => (compiled.child child).1 }

theorem Compiles.schema?_compile {raw : Json} {s : Schema} (compiled : Compiles raw s) :
    (Node.compile raw).schema? = some s := by
  rw [Node.schema?, Node.compile, compiled]
  rfl

theorem compiles_of_schema? {raw : Json} {s : Schema}
    (compiled : (Node.compile raw).schema? = some s) : Compiles raw s := by
  unfold Node.compile Node.schema? at compiled
  cases outcome : Schema.compile raw with
  | ok t =>
    rw [outcome] at compiled
    cases compiled
    exact outcome
  | error cause =>
    rw [outcome] at compiled
    cases compiled

/-- Every schema of a compiled tree satisfies the invariant, whether or not a validation ever comes
to it. -/
theorem reachable_invariant {raw : Json} {root s : Schema}
    (compiled : (Node.compile raw).schema? = some root) (reached : Reachable root s) :
    root.raw = raw ∧ Invariant s := by
  have compiles := compiles_of_schema? compiled
  exact ⟨compiles.raw_eq, (compiles.reachable reached).invariant⟩

end

-- Elements of a uniform array never come to the additional items.
def ignoredSchema : Json :=
  .object [
    ("additionalItems", .object [("type", .array [.string "null",
      .object [("disallow", .string "integer"), ("type", .string "number")]])]),
    ("items", .object [("type", .string "string")])]

set_option maxRecDepth 4000 in
theorem reachable_invariant_ignored :
    ∃ root s, (Node.compile ignoredSchema).schema? = some root ∧ Reachable root s ∧
      s.raw = .object [("disallow", .string "integer"), ("type", .string "number")] ∧
      root.raw = ignoredSchema ∧ Invariant s := by
  have reached : ∃ root s, (Node.compile ignoredSchema).schema? = some root ∧ Reachable root s ∧
      s.raw = .object [("disallow", .string "integer"), ("type", .string "number")] :=
    ⟨_, _, rfl, .child (.child .root (.additionalItems rfl)) (.alternative (.head _)), rfl⟩
  obtain ⟨root, s, compiled, reached, source⟩ := reached
  exact ⟨root, s, compiled, reached, source, reachable_invariant compiled reached⟩

end JsonSchema.Schema
