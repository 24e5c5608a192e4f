import JsonSchema.Proofs.Compile.Grammar

set_option autoImplicit false

namespace JsonSchema

namespace Keyword

def groups : List (List String) := [
  ["type", "disallow"],
  ["enum"],
  ["minimum", "exclusiveMinimum"],
  ["maximum", "exclusiveMaximum"],
  ["divisibleBy"],
  ["minLength"],
  ["maxLength"],
  ["pattern"],
  ["minItems"],
  ["maxItems"],
  ["uniqueItems"],
  ["items", "additionalItems"],
  ["required"],
  ["properties", "additionalProperties"]]

-- Keywords that are read in one step are kept or dropped together.
structure Closed (names : List String) : Prop where
  types : "type" ∈ names ↔ "disallow" ∈ names
  minimum : "minimum" ∈ names ↔ "exclusiveMinimum" ∈ names
  maximum : "maximum" ∈ names ↔ "exclusiveMaximum" ∈ names

theorem closed_of_mem_groups {names : List String} (listed : names ∈ groups) : Closed names := by
  have pairs : ∀ names ∈ groups, ("type" ∈ names ↔ "disallow" ∈ names) ∧
      ("minimum" ∈ names ↔ "exclusiveMinimum" ∈ names) ∧
      ("maximum" ∈ names ↔ "exclusiveMaximum" ∈ names) := by
    decide
  obtain ⟨types, minimum, maximum⟩ := pairs names listed
  exact ⟨types, minimum, maximum⟩

end Keyword

namespace Json

def restrict (names : List String) : Json → Json
  | .object members => .object (members.filter fun m => m.1 ∈ names)
  | v => v

theorem lookup_filter_keys (keep : String → Prop) [DecidablePred keep] (name : String)
    (members : List (String × Json)) :
    (members.filter fun m => keep m.1).lookup name =
      if keep name then members.lookup name else none := by
  induction members with
  | nil => simp
  | cons head rest ih =>
    obtain ⟨key, v⟩ := head
    by_cases same : name = key
    · subst same
      by_cases kept : keep name <;> simp [kept, ih]
    · have skip : (name == key) = false := by simpa using same
      by_cases kept : keep key <;> simp [List.lookup_cons, kept, skip, ih]

variable (names : List String) (schema : Json)

theorem isObject_restrict : (schema.restrict names).isObject = schema.isObject := by
  cases schema <;> rfl

theorem member?_restrict (name : String) :
    (schema.restrict names).member? name =
      if name ∈ names then schema.member? name else none := by
  cases schema with
  | object members => exact lookup_filter_keys (· ∈ names) name members
  | _ => simp [restrict, member?]

-- A keyword of the fragment is read as in the whole document, any other one as an absent keyword.
theorem read_restrict {raw : Json} {names : List String} {α : Type} {R : Option Json → α → Prop}
    {name : String} {a absent : α}
    (read : R (raw.member? name) a) (unread : R none absent) :
    R ((raw.restrict names).member? name) (if name ∈ names then a else absent) := by
  rw [member?_restrict]
  split
  · exact read
  · exact unread

end Json

open Keyword

theorem exists_group_of_position (position : Position) :
    ∃ names ∈ groups, position.keyword ∈ names := by
  cases position <;> simp [Position.keyword, groups]

theorem holds_of_groups {raw : Json} {keyword : String} {form : Json → Prop}
    (known : ∃ names ∈ groups, keyword ∈ names)
    (each : ∀ names ∈ groups, (raw.restrict names).Holds keyword form) :
    raw.Holds keyword form := by
  intro v declared
  obtain ⟨names, listed, member⟩ := known
  apply each names listed v
  rw [Json.member?_restrict, if_pos member]
  exact declared

variable [PatternEngine]

def ValueRules.restrict (names : List String) (r : ValueRules) : ValueRules where
  minimum := if "minimum" ∈ names then r.minimum else none
  maximum := if "maximum" ∈ names then r.maximum else none
  divisor := if "divisibleBy" ∈ names then r.divisor else none
  minLength := if "minLength" ∈ names then r.minLength else none
  maxLength := if "maxLength" ∈ names then r.maxLength else none
  pattern := if "pattern" ∈ names then r.pattern else none
  minItems := if "minItems" ∈ names then r.minItems else none
  maxItems := if "maxItems" ∈ names then r.maxItems else none
  uniqueItems := if "uniqueItems" ∈ names then r.uniqueItems else false

def Schema.restrict (names : List String) (s : Schema) : Schema where
  raw := s.raw.restrict names
  allowed := if "type" ∈ names then s.allowed else .all
  named := if "type" ∈ names then s.named else .all
  enumeration := if "enum" ∈ names then s.enumeration else none
  alternatives := if "type" ∈ names then s.alternatives else []
  rules := s.rules.restrict names
  items := if "items" ∈ names then s.items else .any
  additionalItems := if "additionalItems" ∈ names then s.additionalItems else .allowed
  required := if "required" ∈ names then s.required else false
  properties := if "properties" ∈ names then s.properties else []
  additionalProperties :=
    if "additionalProperties" ∈ names then s.additionalProperties else .allowed

section Restrict

variable {raw : Json} {names : List String}

theorem Keyword.AreRules.restrict {r : ValueRules} (rules : AreRules raw r)
    (closed : Closed names) : AreRules (raw.restrict names) (r.restrict names) := by
  have bound {limit exclusive : String} {b : Option Bound} (pair : limit ∈ names ↔ exclusive ∈ names)
      (read : IsBound (raw.member? limit) (raw.member? exclusive) b) :
      IsBound ((raw.restrict names).member? limit) ((raw.restrict names).member? exclusive)
        (if limit ∈ names then b else none) := by
    simp only [Json.member?_restrict, ← pair]
    split
    · exact read
    · exact ⟨none, false, .none, .inr ⟨rfl, rfl⟩, rfl⟩
  exact {
    minimum := bound closed.minimum rules.minimum
    maximum := bound closed.maximum rules.maximum
    divisor := Json.read_restrict rules.divisor .none
    minLength := Json.read_restrict rules.minLength .none
    maxLength := Json.read_restrict rules.maxLength .none
    pattern := Json.read_restrict rules.pattern .none
    minItems := Json.read_restrict rules.minItems .none
    maxItems := Json.read_restrict rules.maxItems .none
    uniqueItems := Json.read_restrict rules.uniqueItems (.inr ⟨rfl, rfl⟩) }

namespace Schema

theorem Compiles.restrict {s : Schema} (compiled : Compiles raw s) (closed : Closed names) :
    Compiles (raw.restrict names) (s.restrict names) := by
  obtain ⟨declared, disallowed, parts⟩ := compiles_iff.1 compiled
  refine compiles_iff.2 ⟨if "type" ∈ names then declared else .universal,
    if "disallow" ∈ names then disallowed else .nothing, ?_⟩
  exact {
    object := by
      rw [Json.isObject_restrict]
      exact parts.object
    source := by
      rw [Schema.restrict, parts.source]
    type := Json.read_restrict parts.type (.absent rfl)
    disallow := Json.read_restrict parts.disallow (.absent rfl)
    nonempty := by
      dsimp only [Schema.restrict]
      split
      · exact parts.nonempty
      · rfl
    allowed := by
      simp only [Schema.restrict, ← closed.types]
      split
      · exact parts.allowed
      · exact (TypeSet.without_empty _).symm
    named := by
      simp only [Schema.restrict, ← closed.types]
      split
      · exact parts.named
      · exact (TypeSet.without_empty _).symm
    alternatives := by
      dsimp only [Schema.restrict]
      split
      · exact parts.alternatives
      · rfl
    enumeration := Json.read_restrict parts.enumeration .none
    rules := parts.rules.restrict closed
    items := Json.read_restrict parts.items (.any rfl)
    additionalItems := Json.read_restrict parts.additionalItems (.allowed (.inl rfl))
    required := Json.read_restrict parts.required (.inr ⟨rfl, rfl⟩)
    properties := Json.read_restrict parts.properties (.absent rfl)
    additionalProperties := Json.read_restrict parts.additionalProperties (.allowed (.inl rfl)) }

end Schema

end Restrict

section Groups

variable {raw : Json}

theorem inForm_of_groups (each : ∀ names ∈ groups, InForm (raw.restrict names)) : InForm raw := by
  have all {keywords : List String} {form : Json → Prop}
      (known : ∀ keyword ∈ keywords, ∃ names ∈ groups, keyword ∈ names)
      (holds : ∀ names ∈ groups, ∀ keyword ∈ keywords, (raw.restrict names).Holds keyword form) :
      ∀ keyword ∈ keywords, raw.Holds keyword form := by
    intro keyword listed
    exact holds_of_groups (known keyword listed) fun names group => holds names group keyword listed
  have types : ["type", "disallow"] ∈ groups := by decide
  exact {
    object := by
      rw [← Json.isObject_restrict]
      exact (each _ types).object
    types := all (by decide) fun names listed => (each names listed).types
    kinds := by
      obtain ⟨k, allowed⟩ := (each _ types).kinds
      refine ⟨k, (Json.allowedKinds_congr ?_ ?_ k).1 allowed⟩
      · exact Json.member?_restrict ..
      · exact Json.member?_restrict ..
    enumeration := holds_of_groups (by decide) fun names listed => (each names listed).enumeration
    limits := all (by decide) fun names listed => (each names listed).limits
    divisor := holds_of_groups (by decide) fun names listed => (each names listed).divisor
    flags := all (by decide) fun names listed => (each names listed).flags
    counts := all (by decide) fun names listed => (each names listed).counts
    pattern := holds_of_groups (by decide) fun names listed => (each names listed).pattern
    items := holds_of_groups (by decide) fun names listed => (each names listed).items
    additional := all (by decide) fun names listed => (each names listed).additional
    properties := holds_of_groups (by decide) fun names listed => (each names listed).properties }

theorem wellFormed_iff_groups :
    WellFormed raw ↔ ∀ names ∈ groups, WellFormed (raw.restrict names) := by
  constructor
  · intro wellFormed names listed
    obtain ⟨s, compiled⟩ := wellFormed_iff.1 wellFormed
    exact wellFormed_iff.2 ⟨_, compiled.restrict (closed_of_mem_groups listed)⟩
  · intro fragments
    refine .intro (inForm_of_groups fun names listed => ?_) fun position sub inside => ?_
    · cases fragments names listed with
      | intro form => exact form
    · obtain ⟨names, listed, member⟩ := exists_group_of_position position
      cases fragments names listed with
      | intro _ nested =>
        apply nested position sub
        apply inside.of_member?_eq
        rw [Json.member?_restrict, if_pos member]

end Groups

end JsonSchema
