import JsonSchema.Proofs.Compile.Nested
import JsonSchema.Proofs.Kinds

set_option autoImplicit false

namespace JsonSchema.Schema

open Keyword

variable [PatternEngine]

-- The row of elements that begins at this place of the array.
inductive Resolves : Nat → List Json → ResolvedTypes → Prop where
  | nil {place : Nat} : Resolves place [] .nothing
  | name {place : Nat} {n : TypeName} {rest : List Json} {r : ResolvedTypes}
      (tail : Resolves (place + 1) rest r) :
      Resolves place (.string n.name :: rest) ((ResolvedTypes.ofName n).append r)
  | schema {place : Nat} {sub : Json} {s : Schema} {rest : List Json} {r : ResolvedTypes}
      (compiled : Compiles sub s) (tail : Resolves (place + 1) rest r) :
      Resolves place (sub :: rest) ((ResolvedTypes.ofSchema place s).append r)

theorem resolveElements_eq_ok_iff {place : Nat} {elements : List Json} {r : ResolvedTypes} :
    resolveElements place elements = .ok r ↔ Resolves place elements r := by
  induction elements generalizing place r with
  | nil =>
    constructor
    · intro same
      cases same
      exact .nil
    · intro same
      cases same
      rfl
  | cons v rest ih =>
    constructor
    · intro resolved
      cases v with
      | string text =>
        simp only [resolveElements, bind_eq_ok_iff, pure_eq_ok_iff, ih,
          TypeName.parse_eq_ok_iff] at resolved
        obtain ⟨n, rfl, r, tail, rfl⟩ := resolved
        exact .name tail
      | object members =>
        simp only [resolveElements, bind_eq_ok_iff, pure_eq_ok_iff, ih] at resolved
        obtain ⟨s, compiled, r, tail, rfl⟩ := resolved
        exact .schema compiled tail
      | _ => cases resolved
    · intro resolves
      cases resolves with
      | name tail =>
        simp only [resolveElements, bind_eq_ok_iff, pure_eq_ok_iff, ih, TypeName.parse_name]
        exact ⟨_, rfl, _, tail, rfl⟩
      | schema compiled tail =>
        obtain ⟨inner, rfl⟩ := (Json.isObject_iff _).1 compiled.isObject
        simp only [resolveElements, bind_eq_ok_iff, pure_eq_ok_iff, ih]
        exact ⟨_, compiled, _, tail, rfl⟩

namespace Resolves

variable {place : Nat} {elements : List Json} {r : ResolvedTypes}

theorem parses (resolves : Resolves place elements r) :
    ∃ parsed, elements.mapM TypeElement.parse = .ok parsed := by
  induction resolves with
  | nil => exact ⟨[], rfl⟩
  | @name _ n _ _ _ ih =>
    obtain ⟨parsed, tail⟩ := ih
    simp only [List.mapM_cons, bind_eq_ok_iff, pure_eq_ok_iff, tail]
    exact ⟨_, .name n, by rw [TypeElement.parse, TypeName.parse_name]; rfl, _, rfl, rfl⟩
  | schema compiled _ ih =>
    obtain ⟨parsed, tail⟩ := ih
    obtain ⟨inner, rfl⟩ := (Json.isObject_iff _).1 compiled.isObject
    simp only [List.mapM_cons, bind_eq_ok_iff, pure_eq_ok_iff, tail]
    exact ⟨_, _, rfl, _, rfl, rfl⟩

theorem named_iff (resolves : Resolves place elements r) (k : Kind) :
    r.named.kinds k ↔ ∃ text, .string text ∈ elements ∧ Names text k := by
  induction resolves with
  | nil => simp [ResolvedTypes.nothing]
  | name _ ih =>
    simp only [ResolvedTypes.append, ResolvedTypes.ofName, TypeSet.kinds_union,
      TypeSet.kinds_ofName, ih, List.mem_cons, Json.string.injEq, or_and_right, exists_or,
      exists_eq_left]
  | schema compiled _ ih =>
    obtain ⟨inner, rfl⟩ := (Json.isObject_iff _).1 compiled.isObject
    simp [ResolvedTypes.append, ResolvedTypes.ofSchema, ih]

theorem types_iff (resolves : Resolves place elements r) (k : Kind) :
    r.types.kinds k ↔ r.named.kinds k ∨ ∃ i s, (i, s) ∈ r.anonymous ∧ s.allowed.kinds k := by
  induction resolves with
  | nil => simp [ResolvedTypes.nothing]
  | name _ ih =>
    simp only [ResolvedTypes.append, ResolvedTypes.ofName, TypeSet.kinds_union, ih,
      List.nil_append, or_assoc]
  | @schema i _ s _ _ _ _ ih =>
    simp only [ResolvedTypes.append, ResolvedTypes.ofSchema, TypeSet.kinds_union, ih,
      TypeSet.not_kinds_empty, false_or, List.cons_append, List.nil_append, List.mem_cons,
      Prod.mk.injEq, or_and_right, exists_or, and_assoc, exists_and_left, exists_eq_left]
    exact or_left_comm

theorem mem_anonymous_iff (resolves : Resolves place elements r) (i : Nat) (s : Schema) :
    (i, s) ∈ r.anonymous ↔ ∃ j sub, elements[j]? = some sub ∧ i = place + j ∧ Compiles sub s := by
  -- An element counts by its distance from the first one, so the first element is split off.
  have split (place i : Nat) (head : Json) (rest : List Json) :
      (∃ j sub, (head :: rest)[j]? = some sub ∧ i = place + j ∧ Compiles sub s) ↔
        i = place ∧ Compiles head s ∨
          ∃ j sub, rest[j]? = some sub ∧ i = place + 1 + j ∧ Compiles sub s := by
    constructor
    · intro element
      obtain ⟨j, sub, found, rfl, compiled⟩ := element
      cases j with
      | zero =>
        cases found
        exact .inl ⟨rfl, compiled⟩
      | succ j => exact .inr ⟨j, sub, found, by omega, compiled⟩
    · intro element
      rcases element with ⟨rfl, compiled⟩ | ⟨j, sub, found, rfl, compiled⟩
      · exact ⟨0, head, rfl, rfl, compiled⟩
      · exact ⟨j + 1, sub, found, by omega, compiled⟩
  induction resolves with
  | nil => simp [ResolvedTypes.nothing]
  | name _ ih =>
    simp only [ResolvedTypes.append, ResolvedTypes.ofName, List.nil_append, split, ih]
    exact ⟨.inr, fun found => found.resolve_left fun head => nomatch head.2⟩
  | @schema place sub t _ _ compiled _ ih =>
    simp only [ResolvedTypes.append, ResolvedTypes.ofSchema, List.cons_append, List.nil_append,
      List.mem_cons, Prod.mk.injEq, split, ih]
    have unique : s = t ↔ Compiles sub s := by
      rw [Compiles, compiled, Except.ok.injEq, eq_comm]
    rw [unique]

theorem places_increase (resolves : Resolves place elements r) :
    (r.anonymous.map Prod.fst).Pairwise (· < ·) := by
  induction resolves with
  | nil => exact .nil
  | name _ ih => exact ih
  | schema _ tail ih =>
    refine List.pairwise_cons.2 ⟨?_, ih⟩
    intro i member
    obtain ⟨⟨i, s⟩, later, rfl⟩ := List.mem_map.1 member
    obtain ⟨j, _, _, rfl, _⟩ := (tail.mem_anonymous_iff i s).1 later
    dsimp only
    omega

end Resolves

theorem exists_resolves_iff {place : Nat} {elements : List Json} :
    (∃ r, Resolves place elements r) ↔ ∀ e ∈ elements,
      (∃ text, e = .string text ∧ IsTypeName text) ∨ ∃ s, Compiles e s := by
  induction elements generalizing place with
  | nil => exact ⟨nofun, fun _ => ⟨_, .nil⟩⟩
  | cons head rest ih =>
    rw [List.forall_mem_cons, ← @ih (place + 1)]
    constructor
    · intro accepted
      obtain ⟨_, resolves⟩ := accepted
      cases resolves with
      | @name _ n _ _ tail =>
        exact ⟨.inl ⟨_, rfl, (TypeName.exists_parse_iff _).1 ⟨n, TypeName.parse_name n⟩⟩, _, tail⟩
      | schema compiled tail => exact ⟨.inr ⟨_, compiled⟩, _, tail⟩
    · intro formed
      obtain ⟨⟨text, rfl, named⟩ | ⟨s, compiled⟩, r, tail⟩ := formed
      · obtain ⟨n, parsed⟩ := (TypeName.exists_parse_iff _).2 named
        obtain rfl := (TypeName.parse_eq_ok_iff _ _).1 parsed
        exact ⟨_, .name tail⟩
      · exact ⟨_, .schema compiled tail⟩

-- What an absent keyword stands for is a set of kinds, all of them granted by name.
inductive AreTypes (unset : TypeSet) (value : Option Json) : ResolvedTypes → Prop where
  | absent (absent : value = none) : AreTypes unset value ⟨unset, unset, []⟩
  | name {n : TypeName} (declared : value = some (.string n.name)) :
      AreTypes unset value (.ofName n)
  | union {elements : List Json} {r : ResolvedTypes} (declared : value = some (.array elements))
      (resolves : Resolves 0 elements r) : AreTypes unset value r

theorem typesIn_eq_ok_iff {keyword : String} {unset : TypeSet} {members : Members}
    {r : ResolvedTypes} :
    typesIn keyword ⟨unset, unset, []⟩ members = .ok r ↔
      AreTypes unset (members.lookup keyword) r := by
  rw [typesIn_eq]
  constructor
  · intro read
    cases found : members.lookup keyword with
    | none =>
      rw [found] at read
      cases read
      exact .absent rfl
    | some v =>
      rw [found] at read
      cases v with
      | string text =>
        obtain ⟨n, parsed, rfl⟩ := map_eq_ok_iff.1 read
        obtain rfl := (TypeName.parse_eq_ok_iff _ _).1 parsed
        exact .name rfl
      | array elements =>
        obtain ⟨parsed, _, resolved⟩ := bind_eq_ok_iff.1 read
        exact .union rfl (resolveElements_eq_ok_iff.1 resolved)
      | _ => cases read
  · intro types
    cases types with
    | absent absent => rw [absent]
    | @name n declared =>
      rw [declared]
      exact map_eq_ok_iff.2 ⟨n, TypeName.parse_name n, rfl⟩
    | union declared resolves =>
      obtain ⟨parsed, parses⟩ := resolves.parses
      rw [declared]
      exact bind_eq_ok_iff.2 ⟨parsed, parses, resolveElements_eq_ok_iff.2 resolves⟩

theorem exists_areTypes_iff {unset : TypeSet} {value : Option Json} :
    (∃ r, AreTypes unset value r) ↔ ∀ v, value = some v →
      (∃ text, v = .string text ∧ IsTypeName text) ∨ ∃ elements, v = .array elements ∧
        ∀ e ∈ elements, (∃ text, e = .string text ∧ IsTypeName text) ∨ ∃ s, Compiles e s := by
  constructor
  · intro accepted v same
    obtain ⟨r, types⟩ := accepted
    subst same
    cases types with
    | absent absent => cases absent
    | @name n declared =>
      cases declared
      exact .inl ⟨_, rfl, (TypeName.exists_parse_iff _).1 ⟨n, TypeName.parse_name n⟩⟩
    | union declared resolves =>
      cases declared
      exact .inr ⟨_, rfl, exists_resolves_iff.1 ⟨_, resolves⟩⟩
  · intro formed
    cases value with
    | none => exact ⟨_, .absent rfl⟩
    | some v =>
      rcases formed v rfl with ⟨text, rfl, named⟩ | ⟨elements, rfl, each⟩
      · obtain ⟨n, parsed⟩ := (TypeName.exists_parse_iff _).2 named
        obtain rfl := (TypeName.parse_eq_ok_iff _ _).1 parsed
        exact ⟨_, .name rfl⟩
      · obtain ⟨r, resolves⟩ := exists_resolves_iff.2 each
        exact ⟨r, .union rfl resolves⟩

namespace AreTypes

variable {unset : TypeSet} {value : Option Json} {r : ResolvedTypes}

theorem named_iff (types : AreTypes unset value r) (k : Kind) :
    r.named.kinds k ↔ value = none ∧ unset.kinds k ∨ ∃ v, value = some v ∧ v.names k := by
  cases types with
  | absent absent => simp [absent]
  | @name n declared =>
    simp [declared, ResolvedTypes.ofName, TypeSet.kinds_ofName, Json.names]
  | union declared resolves => simp [declared, resolves.named_iff, Json.names]

theorem types_iff (types : AreTypes unset value r) (k : Kind) :
    r.types.kinds k ↔ r.named.kinds k ∨ ∃ i s, (i, s) ∈ r.anonymous ∧ s.allowed.kinds k := by
  cases types with
  | absent => simp
  | name => simp [ResolvedTypes.ofName]
  | union _ resolves => exact resolves.types_iff k

theorem mem_anonymous_iff (types : AreTypes unset value r) (i : Nat) (s : Schema) :
    (i, s) ∈ r.anonymous ↔
      ∃ elements sub, value = some (.array elements) ∧ elements[i]? = some sub ∧ Compiles sub s := by
  cases types with
  | absent absent => simp [absent]
  | name declared => simp [declared, ResolvedTypes.ofName]
  | union declared resolves => simp [declared, resolves.mem_anonymous_iff]

theorem exists_compiles (types : AreTypes unset value r) {elements : List Json} {i : Nat}
    {sub : Json} (declared : value = some (.array elements)) (found : elements[i]? = some sub)
    (object : sub.isObject = true) : ∃ t, Compiles sub t := by
  rcases exists_areTypes_iff.1 ⟨r, types⟩ _ declared with ⟨text, named, _⟩ | ⟨_, same, each⟩
  · cases named
  · cases same
    rcases each sub (List.mem_of_getElem? found) with ⟨text, rfl, _⟩ | compiles
    · cases object
    · exact compiles

theorem kinds_iff (types : AreTypes unset value r)
    (nested : ∀ (elements : List Json) (i : Nat) (sub : Json) (t : Schema),
      value = some (.array elements) → elements[i]? = some sub → Compiles sub t →
      ∀ k, t.allowed.kinds k ↔ sub.allowedKinds k) (k : Kind) :
    r.types.kinds k ↔ (value = none ∧ unset.kinds k ∨ ∃ v, value = some v ∧ v.names k) ∨
      ∃ (elements : List Json) (i : Nat) (sub : Json), value = some (.array elements) ∧
        elements[i]? = some sub ∧ sub.isObject = true ∧ sub.allowedKinds k := by
  rw [types.types_iff, types.named_iff]
  refine or_congr_right ⟨?_, ?_⟩
  · intro granted
    obtain ⟨i, t, member, allowed⟩ := granted
    obtain ⟨elements, sub, declared, found, compiled⟩ := (types.mem_anonymous_iff i t).1 member
    exact ⟨elements, i, sub, declared, found, compiled.isObject,
      (nested _ _ _ _ declared found compiled k).1 allowed⟩
  · intro granted
    obtain ⟨elements, i, sub, declared, found, object, allowed⟩ := granted
    obtain ⟨t, compiled⟩ := types.exists_compiles declared found object
    exact ⟨i, t, (types.mem_anonymous_iff i t).2 ⟨elements, sub, declared, found, compiled⟩,
      (nested _ _ _ _ declared found compiled k).2 allowed⟩

theorem places_increase (types : AreTypes unset value r) :
    (r.anonymous.map Prod.fst).Pairwise (· < ·) := by
  cases types with
  | absent | name => exact .nil
  | union _ resolves => exact resolves.places_increase

end AreTypes

end JsonSchema.Schema
