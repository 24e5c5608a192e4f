import JsonSchema.Proofs.Compile.Fragments
import JsonSchema.Proofs.Compile.Tree

set_option autoImplicit false

namespace JsonSchema

namespace Json

def erase (name : String) : Json → Json
  | .object members => .object (members.filter fun m => m.1 ≠ name)
  | v => v

section Members

variable (schema : Json) (name : String)

theorem isObject_erase : (schema.erase name).isObject = schema.isObject := by
  cases schema <;> rfl

theorem member?_erase (other : String) :
    (schema.erase name).member? other = if other = name then none else schema.member? other := by
  cases schema with
  | object members =>
    have found := lookup_filter_keys (· ≠ name) other members
    by_cases same : other = name
    · simpa [erase, same] using found
    · simpa [erase, same] using found
  | _ => simp [erase, member?]

end Members

structure AgreeBesides (schema schema' : Json) : Prop where
  object : schema'.isObject = schema.isObject
  others : ∀ name, name ≠ "disallow" → schema'.member? name = schema.member? name

theorem agreeBesides_erase (schema : Json) : schema.AgreeBesides (schema.erase "disallow") where
  object := isObject_erase schema "disallow"
  others name other := by rw [member?_erase, if_neg other]

section Kinds

variable {schema schema' : Json} (k : Kind)

theorem AgreeBesides.declaredKinds (agree : schema.AgreeBesides schema') :
    schema'.declaredKinds k ↔ schema.declaredKinds k :=
  declaredKinds_congr (agree.others "type" (by decide)) k

theorem AgreeBesides.namedKinds (agree : schema.AgreeBesides schema') :
    schema'.namedKinds k ↔ schema.namedKinds k := by
  rw [Json.namedKinds, Json.namedKinds, agree.others "type" (by decide)]

theorem not_disallowedKinds_erase : ¬(schema.erase "disallow").disallowedKinds k :=
  not_disallowedKinds_of_absent (by rw [member?_erase, if_pos rfl]) k

theorem allowedKinds_erase : (schema.erase "disallow").allowedKinds k ↔ schema.declaredKinds k := by
  rw [allowedKinds, Kinds.without_iff_of_empty not_disallowedKinds_erase]
  exact schema.agreeBesides_erase.declaredKinds k

theorem grantedKinds_erase : (schema.erase "disallow").grantedKinds k ↔ schema.namedKinds k := by
  rw [grantedKinds, Kinds.without_iff_of_empty not_disallowedKinds_erase]
  exact schema.agreeBesides_erase.namedKinds k

end Kinds

end Json

variable [PatternEngine]

namespace Json

def spellElement (e : Json) : List Json :=
  match (Node.compile e).schema? with
  | some s => s.allowed.toList.map fun k => .string k.name
  | none => [e]

def spellTypes : Json → Json
  | .array elements => .array (elements.flatMap spellElement)
  | v => v

def spellDisallow : Json → Json
  | .object members =>
    .object (members.map fun m => (m.1, if m.1 = "disallow" then m.2.spellTypes else m.2))
  | v => v

theorem member?_spellDisallow (schema : Json) (name : String) :
    schema.spellDisallow.member? name =
      (schema.member? name).map fun v => if name = "disallow" then v.spellTypes else v := by
  cases schema with
  | object members =>
    rw [spellDisallow, member?, member?]
    induction members with
    | nil => rfl
    | cons head rest ih =>
      obtain ⟨key, v⟩ := head
      by_cases same : name = key
      · simp [same]
      · have skip : (name == key) = false := by simpa using same
        simp [List.lookup_cons, skip, ih]
  | _ => rfl

theorem agreeBesides_spellDisallow (schema : Json) : schema.AgreeBesides schema.spellDisallow where
  object := by cases schema <;> rfl
  others name other := by simp [member?_spellDisallow, other]

end Json

namespace Schema

open Json (spellElement)

section Spelled

variable {raw : Json} {s : Schema} {elements : List Json}

theorem string_mem_spellElement_iff (e : Json) (text : String) :
    .string text ∈ spellElement e ↔
      e = .string text ∨ ∃ t, Compiles e t ∧ ∃ k, t.allowed.kinds k ∧ text = k.name := by
  unfold spellElement
  cases found : (Node.compile e).schema? with
  | none =>
    have refused (t : Schema) : ¬Compiles e t := by
      intro compiled
      rw [compiled.schema?_compile] at found
      cases found
    simp [refused, eq_comm]
  | some t =>
    have compiled := compiles_of_schema? found
    have only (u : Schema) : Compiles e u ↔ u = t :=
      ⟨fun other => other.unique compiled, fun same => same ▸ compiled⟩
    have object : e ≠ .string text := by
      rintro rfl
      cases found
    simp only [only, object, false_or, exists_eq_left, List.mem_map, TypeSet.mem_toList,
      Json.string.injEq]
    exact exists_congr fun k => and_congr_right fun _ => eq_comm

theorem exists_name_of_mem_spellElement {e e' : Json}
    (formed : (∃ text, e = .string text ∧ IsTypeName text) ∨ ∃ t, Compiles e t)
    (member : e' ∈ spellElement e) : ∃ text, e' = .string text ∧ IsTypeName text := by
  unfold spellElement at member
  rcases formed with ⟨text, rfl, named⟩ | ⟨t, compiled⟩
  · exact ⟨text, List.mem_singleton.1 member, named⟩
  · rw [compiled.schema?_compile] at member
    obtain ⟨k, _, rfl⟩ := List.mem_map.1 member
    exact ⟨k.name, rfl, .inr ⟨k, rfl⟩⟩

theorem names_spellTypes_iff (k : Kind) :
    (Json.array elements).spellTypes.names k ↔ (Json.array elements).names k ∨
      ∃ e ∈ elements, ∃ t, Compiles e t ∧ t.allowed.kinds k := by
  simp only [Json.spellTypes, Json.names, List.mem_flatMap, string_mem_spellElement_iff]
  constructor
  · intro named
    obtain ⟨text, ⟨e, member, same | ⟨t, compiled, j, allowed, same⟩⟩, names⟩ := named
    · exact .inl ⟨text, same ▸ member, names⟩
    · rw [same, names_name_iff] at names
      exact .inr ⟨e, member, t, compiled, names ▸ allowed⟩
  · intro taken
    rcases taken with ⟨text, member, names⟩ | ⟨e, member, t, compiled, allowed⟩
    · exact ⟨text, ⟨_, member, .inl rfl⟩, names⟩
    · exact ⟨k.name, ⟨e, member, .inr ⟨t, compiled, k, allowed, rfl⟩⟩, (names_name_iff k k).2 rfl⟩

variable (compiled : Compiles raw s)
include compiled

theorem Compiles.disallow_spelled {v : Json}
    (declared : raw.spellDisallow.member? "disallow" = some v) :
    v.IsTypeNameText ∨ ∃ elements, v = .array elements ∧ ∀ e ∈ elements, e.IsTypeNameText := by
  obtain ⟨_, disallowed, parts⟩ := compiles_iff.1 compiled
  rw [Json.member?_spellDisallow] at declared
  obtain ⟨value, original, rfl⟩ := Option.map_eq_some_iff.1 declared
  rcases exists_areTypes_iff.1 ⟨disallowed, parts.disallow⟩ value original with
    ⟨text, rfl, named⟩ | ⟨elements, rfl, each⟩
  · exact .inl ⟨text, rfl, named⟩
  · refine .inr ⟨_, rfl, fun e' member => ?_⟩
    obtain ⟨e, listed, spelled⟩ := List.mem_flatMap.1 member
    exact exists_name_of_mem_spellElement (each e listed) spelled

theorem Compiles.not_disallowed_spelled (place : Nat) (sub : Json) :
    ¬Subschema raw.spellDisallow (.disallowed place) sub := by
  intro inside
  cases inside with
  | disallowed declared found object =>
    rcases compiled.disallow_spelled declared with ⟨_, same, _⟩ | ⟨_, same, each⟩
    · cases same
    · cases same
      obtain ⟨text, rfl, _⟩ := each sub (List.mem_of_getElem? found)
      cases object

theorem Compiles.disallowedKinds_spelled_iff (k : Kind) : raw.spellDisallow.disallowedKinds k ↔
    ∃ value, raw.member? "disallow" = some value ∧ value.spellTypes.names k := by
  rw [Json.disallowedKinds]
  simp [compiled.not_disallowed_spelled, Json.member?_spellDisallow]

theorem Compiles.disallowedKinds_spellDisallow (k : Kind) :
    raw.spellDisallow.disallowedKinds k ↔ raw.disallowedKinds k := by
  obtain ⟨_, disallowed, parts⟩ := compiles_iff.1 compiled
  have formed := exists_areTypes_iff.1 ⟨disallowed, parts.disallow⟩
  rw [compiled.disallowedKinds_spelled_iff, Json.disallowedKinds]
  constructor
  · intro taken
    obtain ⟨value, declared, names⟩ := taken
    rcases formed value declared with ⟨text, rfl, _⟩ | ⟨elements, rfl, _⟩
    · exact .inl ⟨_, declared, names⟩
    · rcases (names_spellTypes_iff k).1 names with named | ⟨e, member, t, nested, allowed⟩
      · exact .inl ⟨_, declared, named⟩
      · obtain ⟨place, found⟩ := List.mem_iff_getElem?.1 member
        exact .inr ⟨place, e, .disallowed declared found nested.isObject,
          (nested.allowed_iff k).1 allowed⟩
  · intro taken
    rcases taken with ⟨value, declared, names⟩ | ⟨place, sub, inside, allowed⟩
    · refine ⟨value, declared, ?_⟩
      rcases formed value declared with ⟨text, rfl, _⟩ | ⟨elements, rfl, _⟩
      · exact names
      · exact (names_spellTypes_iff k).2 (.inl names)
    · obtain ⟨t, nested⟩ := compiled.subschema inside
      cases inside with
      | disallowed declared found =>
        exact ⟨_, declared, (names_spellTypes_iff k).2 (.inr ⟨sub, List.mem_of_getElem? found, t,
          nested, (nested.allowed_iff k).2 allowed⟩)⟩

end Spelled

section Agree

variable {raw raw' : Json} (agree : raw.AgreeBesides raw')
include agree

theorem Compiles.exists_agree {s : Schema} (compiled : Compiles raw s)
    (formed : ∃ r, AreTypes .empty (raw'.member? "disallow") r) (left : ∃ k, raw'.allowedKinds k) :
    ∃ allowed named,
      Compiles raw' { s with raw := raw', allowed := allowed, named := named } := by
  obtain ⟨declared, _, parts⟩ := compiles_iff.1 compiled
  obtain ⟨disallowed, disallow⟩ := formed
  have same {name : String} (other : name ≠ "disallow") := agree.others name other
  have type : AreTypes .all (raw'.member? "type") declared := by
    rw [same (by decide)]
    exact parts.type
  have additional : IsAdditional (raw'.member? "additionalItems") s.additionalItems := by
    rw [same (by decide)]
    exact parts.additionalItems
  have nonempty : (declared.types.without disallowed.types).isEmpty = false := by
    obtain ⟨k, kept⟩ := left
    refine (TypeSet.isEmpty_eq_false_iff _).2 ⟨k, ?_⟩
    rw [Json.allowedKinds] at kept
    rw [TypeSet.kinds_without]
    refine (Kinds.without_congr (declared_iff type ?_) (disallowed_iff disallow ?_) k).2 kept
    · exact fun _ _ _ _ nested => nested.allowed_iff
    · exact fun _ _ _ _ nested => nested.allowed_iff
  have replaced := compiled.replace (agree.object.trans parts.object)
    (fun name other => same fun disallow => other (by simp [disallow])) type disallow nonempty
    additional
  rw [← parts.alternatives] at replaced
  exact ⟨_, _, replaced⟩

end Agree

section Variants

variable {raw : Json} {s : Schema} (compiled : Compiles raw s)
include compiled

theorem Compiles.exists_erase : ∃ allowed named, Compiles (raw.erase "disallow")
    { s with raw := raw.erase "disallow", allowed := allowed, named := named } := by
  refine compiled.exists_agree raw.agreeBesides_erase ?_ ?_
  · rw [Json.member?_erase, if_pos rfl]
    exact ⟨_, .absent rfl⟩
  · obtain ⟨k, kept⟩ := compiled.inForm.kinds
    rw [Json.allowedKinds] at kept
    exact ⟨k, (Json.allowedKinds_erase k).2 kept.1⟩

theorem Compiles.allowedKinds_spellDisallow (k : Kind) :
    raw.spellDisallow.allowedKinds k ↔ raw.allowedKinds k := by
  rw [Json.allowedKinds, Json.allowedKinds]
  exact Kinds.without_congr (raw.agreeBesides_spellDisallow.declaredKinds ·)
    compiled.disallowedKinds_spellDisallow k

theorem Compiles.grantedKinds_spellDisallow (k : Kind) :
    raw.spellDisallow.grantedKinds k ↔ raw.grantedKinds k :=
  Kinds.without_congr (raw.agreeBesides_spellDisallow.namedKinds ·)
    compiled.disallowedKinds_spellDisallow k

theorem Compiles.spellDisallow :
    Compiles raw.spellDisallow { s with raw := raw.spellDisallow } := by
  have formed : ∃ r, AreTypes .empty (raw.spellDisallow.member? "disallow") r := by
    refine exists_areTypes_iff.2 fun v declared => ?_
    refine (compiled.disallow_spelled declared).imp_right fun listed => ?_
    obtain ⟨elements, same, each⟩ := listed
    exact ⟨elements, same, fun e member => .inl (each e member)⟩
  have left : ∃ k, raw.spellDisallow.allowedKinds k := by
    obtain ⟨k, kept⟩ := compiled.inForm.kinds
    exact ⟨k, (compiled.allowedKinds_spellDisallow k).2 kept⟩
  obtain ⟨allowed, named, spelled⟩ :=
    compiled.exists_agree raw.agreeBesides_spellDisallow formed left
  have allowed_eq := spelled.allowed_eq compiled compiled.allowedKinds_spellDisallow
  have named_eq := spelled.named_eq compiled compiled.grantedKinds_spellDisallow
  dsimp only at allowed_eq named_eq
  rwa [allowed_eq, named_eq] at spelled

end Variants

end Schema

end JsonSchema
