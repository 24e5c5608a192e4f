import JsonSchema.Proofs.Compile.Grammar
import JsonSchema.Proofs.Keyword.Fits

set_option autoImplicit false

namespace JsonSchema

namespace Json

mutual

def stripped : Json → Json
  | .object members => .object (strippedMembers members)
  | v => v
termination_by structural v => v

def strippedMembers : List (String × Json) → List (String × Json)
  | [] => []
  | (key, v) :: rest =>
    if key = "type" then (key, v.strippedTypes) :: strippedMembers rest
    else if key = "disallow" ∨ key = "enum" then (key, v) :: strippedMembers rest
    else strippedMembers rest
termination_by structural members => members

def strippedTypes : Json → Json
  | .array elements => .array (strippedElements elements)
  | v => v
termination_by structural v => v

def strippedElements : List Json → List Json
  | [] => []
  | v :: rest => v.stripped :: strippedElements rest
termination_by structural elements => elements

end

theorem strippedElements_eq (elements : List Json) :
    strippedElements elements = elements.map stripped := by
  induction elements with
  | nil => rfl
  | cons v rest ih => rw [strippedElements, ih, List.map_cons]

theorem isObject_stripped (v : Json) : v.stripped.isObject = v.isObject := by
  cases v <;> rfl

theorem stripped_eq_string_iff (v : Json) (text : String) :
    v.stripped = .string text ↔ v = .string text := by
  cases v <;> simp [stripped]

theorem lookup_strippedMembers (members : List (String × Json)) (name : String) :
    (strippedMembers members).lookup name =
      if name = "type" then (members.lookup name).map strippedTypes
      else if name = "disallow" ∨ name = "enum" then members.lookup name
      else none := by
  induction members with
  | nil => simp [strippedMembers]
  | cons head rest ih =>
    obtain ⟨key, v⟩ := head
    rw [strippedMembers]
    by_cases here : name = key
    · subst here
      by_cases type : name = "type"
      · simp only [type, if_true, List.lookup_cons_self, Option.map_some]
      · by_cases kept : name = "disallow" ∨ name = "enum"
        · simp only [type, kept, if_true, if_false, List.lookup_cons_self]
        · rw [if_neg type, if_neg kept, ih, if_neg type, if_neg kept, if_neg type, if_neg kept]
    · have other : (name == key) = false := by simpa using here
      have skip (w : Json) :
          ((key, w) :: strippedMembers rest).lookup name = (strippedMembers rest).lookup name := by
        rw [List.lookup_cons, other]
      rw [List.lookup_cons, other, ← ih]
      split
      · exact skip _
      · split
        · exact skip _
        · rfl

section Members

variable {schema sub : Json} {place : Nat}

theorem member?_stripped (schema : Json) (name : String) :
    schema.stripped.member? name =
      if name = "type" then (schema.member? name).map strippedTypes
      else if name = "disallow" ∨ name = "enum" then schema.member? name
      else none := by
  cases schema with
  | object members => exact lookup_strippedMembers members name
  | _ => simp [stripped, member?]

theorem member?_type_stripped (schema : Json) :
    schema.stripped.member? "type" = (schema.member? "type").map strippedTypes := by
  rw [member?_stripped, if_pos rfl]

theorem member?_disallow_stripped (schema : Json) :
    schema.stripped.member? "disallow" = schema.member? "disallow" := by
  rw [member?_stripped, if_neg (by decide), if_pos (.inl rfl)]

theorem member?_enum_stripped (schema : Json) :
    schema.stripped.member? "enum" = schema.member? "enum" := by
  rw [member?_stripped, if_neg (by decide), if_pos (.inr rfl)]

theorem hasNoKeywords_stripped (schema : Json) : schema.stripped.HasNoKeywords := by
  intro name other
  simp only [List.mem_cons, List.not_mem_nil, or_false, not_or] at other
  obtain ⟨type, disallow, enumeration⟩ := other
  rw [member?_stripped, if_neg type, if_neg (by simp [disallow, enumeration])]

theorem alternative_stripped_iff :
    Subschema schema.stripped (.alternative place) sub ↔
      ∃ whole, Subschema schema (.alternative place) whole ∧ sub = whole.stripped := by
  constructor
  · intro inside
    cases inside with
    | alternative declared found object =>
      rw [member?_type_stripped] at declared
      obtain ⟨value, original, same⟩ := Option.map_eq_some_iff.1 declared
      cases value with
      | array elements =>
        cases same
        rw [strippedElements_eq, List.getElem?_map] at found
        obtain ⟨whole, place, rfl⟩ := Option.map_eq_some_iff.1 found
        rw [isObject_stripped] at object
        exact ⟨whole, .alternative original place object, rfl⟩
      | _ => cases same
  · intro inside
    obtain ⟨whole, inside, rfl⟩ := inside
    cases inside with
    | @alternative elements _ _ declared found object =>
      have types : schema.stripped.member? "type" = some (.array (elements.map stripped)) := by
        rw [member?_type_stripped, declared, Option.map_some, strippedTypes, strippedElements_eq]
      apply Subschema.alternative types
      · rw [List.getElem?_map, found, Option.map_some]
      · rw [isObject_stripped]
        exact object

theorem disallowed_stripped_iff :
    Subschema schema.stripped (.disallowed place) sub ↔
      Subschema schema (.disallowed place) sub := by
  constructor
  · intro inside
    cases inside with
    | disallowed declared found object =>
      rw [member?_disallow_stripped] at declared
      exact .disallowed declared found object
  · intro inside
    cases inside with
    | disallowed declared found object =>
      rw [← member?_disallow_stripped] at declared
      exact .disallowed declared found object

end Members

section Kinds

variable (schema : Json) (k : Kind)

theorem names_strippedTypes (value : Json) : value.strippedTypes.names k ↔ value.names k := by
  cases value with
  | array elements => simp [strippedTypes, strippedElements_eq, names, stripped_eq_string_iff]
  | _ => rfl

theorem namedKinds_stripped : schema.stripped.namedKinds k ↔ schema.namedKinds k := by
  simp [namedKinds, member?_type_stripped, names_strippedTypes]

theorem disallowedKinds_stripped :
    schema.stripped.disallowedKinds k ↔ schema.disallowedKinds k := by
  rw [disallowedKinds, disallowedKinds, member?_disallow_stripped]
  simp only [disallowed_stripped_iff]

theorem grantedKinds_stripped : schema.stripped.grantedKinds k ↔ schema.grantedKinds k :=
  Kinds.without_congr (namedKinds_stripped schema) (disallowedKinds_stripped schema) k

theorem allowedKinds_stripped : schema.stripped.allowedKinds k ↔ schema.allowedKinds k := by
  induction schema using Subschema.induction generalizing k with
  | step schema ih =>
    rw [allowedKinds, allowedKinds]
    refine Kinds.without_congr (fun k => ?_) (disallowedKinds_stripped schema) k
    rw [declaredKinds, declaredKinds]
    refine or_congr (namedKinds_stripped schema k) ⟨?_, ?_⟩
    · intro declared
      obtain ⟨place, sub, inside, allowed⟩ := declared
      obtain ⟨whole, nested, rfl⟩ := alternative_stripped_iff.1 inside
      exact ⟨place, whole, nested, (ih _ whole nested k).1 allowed⟩
    · intro declared
      obtain ⟨place, whole, inside, allowed⟩ := declared
      exact ⟨place, _, alternative_stripped_iff.2 ⟨whole, inside, rfl⟩,
        (ih _ whole inside k).2 allowed⟩

end Kinds

theorem isTypes_strippedTypes {value : Json} (types : value.IsTypes) :
    value.strippedTypes.IsTypes := by
  rcases types with ⟨text, rfl, named⟩ | ⟨elements, rfl, each⟩
  · exact .inl ⟨text, rfl, named⟩
  · rw [strippedTypes, strippedElements_eq]
    refine .inr ⟨_, rfl, fun e member => ?_⟩
    obtain ⟨whole, listed, rfl⟩ := List.mem_map.1 member
    rw [isObject_stripped]
    apply (each whole listed).imp_left
    intro name
    obtain ⟨text, rfl, named⟩ := name
    exact ⟨text, rfl, named⟩

end Json

variable [PatternEngine]

section Form

variable {schema : Json}

theorem InForm.stripped (form : InForm schema) : InForm schema.stripped := by
  -- Whatever is asked of the other keywords, none of them is left.
  have absent {name : String} {P : Json → Prop} (other : name ∉ ["type", "disallow", "enum"]) :
      schema.stripped.Holds name P := by
    intro v declared
    rw [schema.hasNoKeywords_stripped name other] at declared
    cases declared
  have allAbsent {names : List String} {P : Json → Prop}
      (others : ∀ name ∈ names, name ∉ ["type", "disallow", "enum"]) :
      ∀ name ∈ names, schema.stripped.Holds name P :=
    fun name listed => absent (others name listed)
  exact {
    object := by
      rw [Json.isObject_stripped]
      exact form.object
    types := by
      rw [List.forall_mem_cons, List.forall_mem_singleton]
      constructor
      · intro v declared
        rw [Json.member?_type_stripped] at declared
        obtain ⟨value, original, rfl⟩ := Option.map_eq_some_iff.1 declared
        exact Json.isTypes_strippedTypes (form.types "type" (by simp) value original)
      · intro v declared
        rw [Json.member?_disallow_stripped] at declared
        exact form.types "disallow" (by simp) v declared
    kinds := by
      obtain ⟨k, allowed⟩ := form.kinds
      exact ⟨k, (schema.allowedKinds_stripped k).2 allowed⟩
    enumeration := by
      intro v declared
      rw [Json.member?_enum_stripped] at declared
      exact form.enumeration v declared
    limits := allAbsent (by decide)
    divisor := absent (by decide)
    flags := allAbsent (by decide)
    counts := allAbsent (by decide)
    pattern := absent (by decide)
    items := absent (by decide)
    additional := allAbsent (by decide)
    properties := absent (by decide) }

theorem WellFormed.stripped (wellFormed : WellFormed schema) : WellFormed schema.stripped := by
  induction wellFormed with
  | @intro schema form nested ih =>
    refine .intro form.stripped fun position sub inside => ?_
    have absent {name : String} {v : Json} (other : name ∉ ["type", "disallow", "enum"])
        (declared : schema.stripped.member? name = some v) : WellFormed sub := by
      rw [schema.hasNoKeywords_stripped name other] at declared
      cases declared
    cases inside with
    | alternative declared found object =>
      obtain ⟨whole, inside, rfl⟩ :=
        Json.alternative_stripped_iff.1 (.alternative declared found object)
      exact ih _ whole inside
    | disallowed declared found object =>
      exact nested _ sub (Json.disallowed_stripped_iff.1 (.disallowed declared found object))
    | items declared | item declared | additionalItems declared | property declared
    | additionalProperties declared => exact absent (by decide) declared

end Form

namespace Schema

variable {raw : Json} {s bare : Schema}

theorem Compiles.exists_stripped (compiled : Compiles raw s) :
    ∃ bare, Compiles raw.stripped bare :=
  wellFormed_iff.1 (wellFormed_iff.2 ⟨s, compiled⟩).stripped

section Same

variable (compiled : Compiles raw s) (stripped : Compiles raw.stripped bare)
include compiled stripped

theorem Compiles.allowed_stripped : bare.allowed = s.allowed :=
  stripped.allowed_eq compiled raw.allowedKinds_stripped

theorem Compiles.named_stripped : bare.named = s.named :=
  stripped.named_eq compiled raw.grantedKinds_stripped

theorem Compiles.enumeration_stripped : bare.enumeration = s.enumeration := by
  obtain ⟨_, _, parts⟩ := compiles_iff.1 compiled
  obtain ⟨_, _, bareParts⟩ := compiles_iff.1 stripped
  have read := bareParts.enumeration
  rw [Json.member?_enum_stripped] at read
  exact unique_enumeration read parts.enumeration

end Same

end Schema

end JsonSchema
