import JsonSchema.Proofs.Compile.Filling
import Mathlib.Logic.Relation

set_option autoImplicit false

namespace JsonSchema

/-- A schema document with one of these arrays left open. The first value of the keyword is the one
that counts. -/
structure Listing where
  before : List (String × Json)
  keyword : String
  listed : keyword ∈ ["type", "disallow", "enum"]
  after : List (String × Json)
  fresh : before.lookup keyword = none

def Listing.fill (listing : Listing) (elements : List Json) : Json :=
  .object (listing.before ++ (listing.keyword, .array elements) :: listing.after)

inductive RearrangedOnce : Json → Json → Prop where
  | intro (context : Context) (listing : Listing) {elements elements' : List Json}
      (same : SameMembers elements elements') :
      RearrangedOnce (context.fill (listing.fill elements)) (context.fill (listing.fill elements'))

abbrev Rearranged : Json → Json → Prop := Relation.ReflTransGen RearrangedOnce

theorem RearrangedOnce.symm {raw raw' : Json} (rearranged : RearrangedOnce raw raw') :
    RearrangedOnce raw' raw := by
  cases rearranged with
  | intro context listing same => exact .intro context listing same.symm

theorem Rearranged.symm {raw raw' : Json} (rearranged : Rearranged raw raw') :
    Rearranged raw' raw := by
  induction rearranged with
  | refl => exact .refl
  | tail _ last ih => exact .head last.symm ih

namespace Listing

variable (listing : Listing)

theorem member?_keyword (elements : List Json) :
    (listing.fill elements).member? listing.keyword = some (.array elements) := by
  rw [fill, Json.member?_object, List.lookup_append, listing.fresh, List.lookup_cons_self]
  rfl

theorem member?_other {name : String} (other : name ≠ listing.keyword)
    (elements elements' : List Json) :
    (listing.fill elements).member? name = (listing.fill elements').member? name := by
  have skip : (name == listing.keyword) = false := by simpa using other
  simp only [fill, Json.member?_object, List.lookup_append, List.lookup_cons, skip]

theorem member?_plain {name : String} (plain : name ∉ ["type", "disallow", "enum"])
    (elements elements' : List Json) :
    (listing.fill elements).member? name = (listing.fill elements').member? name := by
  apply listing.member?_other
  intro same
  rw [same] at plain
  exact plain listing.listed

variable {elements elements' : List Json} (same : SameMembers elements elements')
include same

theorem subschema_fill {position : Position} {sub : Json}
    (inside : Subschema (listing.fill elements) position sub) :
    ∃ position', position.Corresponds position' ∧
      Subschema (listing.fill elements') position' sub := by
  by_cases here : position.keyword = listing.keyword
  · have declared := listing.member?_keyword elements
    have declared' := listing.member?_keyword elements'
    rw [← here] at declared declared'
    have listed := listing.listed
    rw [← here] at listed
    cases inside with
    | alternative value found object =>
      cases value.symm.trans declared
      obtain ⟨place', found'⟩ :=
        List.mem_iff_getElem?.1 ((same sub).1 (List.mem_of_getElem? found))
      exact ⟨_, .alternative _ place', .alternative declared' found' object⟩
    | disallowed value found object =>
      cases value.symm.trans declared
      obtain ⟨place', found'⟩ :=
        List.mem_iff_getElem?.1 ((same sub).1 (List.mem_of_getElem? found))
      exact ⟨_, .disallowed _ place', .disallowed declared' found' object⟩
    | items | item | additionalItems | property | additionalProperties =>
      simp [Position.keyword] at listed
  · exact ⟨position, .refl position, inside.of_member?_eq (listing.member?_other here _ _)⟩

theorem typesWithin_fill : (listing.fill elements).TypesWithin (listing.fill elements') where
  unset absent := by
    by_cases here : "type" = listing.keyword
    · rw [here, listing.member?_keyword] at absent
      cases absent
    · rw [listing.member?_other here elements elements'] at absent
      exact absent
  names keyword k declared := by
    by_cases here : keyword = listing.keyword
    · subst here
      obtain ⟨value, declared, names⟩ := declared
      cases declared.symm.trans (listing.member?_keyword elements)
      obtain ⟨text, member, named⟩ := names
      exact ⟨_, listing.member?_keyword elements', text, (same _).1 member, named⟩
    · rw [listing.member?_other here elements elements'] at declared
      exact declared
  nested position sub inside := by
    obtain ⟨position', corresponds, there⟩ := listing.subschema_fill same inside
    exact ⟨position', sub, corresponds, there, fun _ => id⟩

theorem keepsForm_fill (name : String) (v' : Json)
    (declared' : (listing.fill elements').member? name = some v') :
    ∃ v, (listing.fill elements).member? name = some v ∧ v.KeepsForm v' := by
  by_cases here : name = listing.keyword
  · subst here
    cases declared'.symm.trans (listing.member?_keyword elements')
    refine ⟨_, listing.member?_keyword elements, .of_array fun e member => ?_⟩
    exact ⟨e, (same e).2 member, .inl rfl⟩
  · rw [listing.member?_other here elements' elements] at declared'
    exact ⟨v', declared', .refl v'⟩

end Listing

theorem RearrangedOnce.subschema {raw raw' : Json} (rearranged : RearrangedOnce raw raw')
    {position : Position} {sub : Json} (inside : Subschema raw position sub) :
    ∃ position' sub', position.Corresponds position' ∧ Subschema raw' position' sub' ∧
      Rearranged sub sub' := by
  cases rearranged with
  | intro context listing same =>
    cases context with
    | nil =>
      obtain ⟨position', corresponds, there⟩ := listing.subschema_fill same inside
      exact ⟨position', sub, corresponds, there, .refl⟩
    | cons layer rest =>
      have object (elements : List Json) :
          (Context.fill rest (listing.fill elements)).isObject = true :=
        Context.isObject_fill rest rfl
      rcases layer.subschema_fill_cases (object _) inside _ with there | ⟨rfl, rfl⟩
      · exact ⟨position, sub, .refl position, there, .refl⟩
      · exact ⟨_, _, .refl _, layer.subschema_fill (object _), .single (.intro rest listing same)⟩

theorem Rearranged.subschema {raw raw' : Json} (rearranged : Rearranged raw raw')
    {position : Position} {sub : Json} (inside : Subschema raw position sub) :
    ∃ position' sub', position.Corresponds position' ∧ Subschema raw' position' sub' ∧
      Rearranged sub sub' := by
  induction rearranged with
  | refl => exact ⟨position, sub, .refl position, inside, .refl⟩
  | tail _ last ih =>
    obtain ⟨_, _, first, there, within⟩ := ih
    obtain ⟨position', sub', second, there', within'⟩ := last.subschema there
    exact ⟨position', sub', first.trans second, there', within.trans within'⟩

variable [PatternEngine]

theorem Listing.wellFormed_fill (listing : Listing) {elements elements' : List Json}
    (same : SameMembers elements elements') (wellFormed : WellFormed (listing.fill elements)) :
    WellFormed (listing.fill elements') := by
  obtain ⟨form, nested⟩ := wellFormed
  have kinds := Json.allowedKinds_iff_of_within (listing.typesWithin_fill same)
    (listing.typesWithin_fill same.symm)
  refine .intro (form.transfer (listing.keepsForm_fill same) rfl kinds fun keyword count => ?_)
    fun position' sub inside => ?_
  · have plain : ∀ keyword ∈ ["minLength", "maxLength", "minItems", "maxItems"],
        keyword ∉ ["type", "disallow", "enum"] := by decide
    exact (form.counts keyword count).congr (listing.member?_plain (plain keyword count) _ _)
  · obtain ⟨position, _, there⟩ := listing.subschema_fill same.symm inside
    exact nested position sub there

namespace Schema

section Listing

variable {listing : Listing} {elements elements' : List Json} {s t : Schema}
  (same : SameMembers elements elements') (left : Compiles (listing.fill elements) s)
  (right : Compiles (listing.fill elements') t)
include same left right

theorem rel_enumeration_listing : Option.Rel SameMembers s.enumeration t.enumeration := by
  obtain ⟨_, _, parts⟩ := compiles_iff.1 left
  obtain ⟨_, _, parts'⟩ := compiles_iff.1 right
  have first := parts.enumeration
  have second := parts'.enumeration
  by_cases here : "enum" = listing.keyword
  · rw [here, listing.member?_keyword] at first second
    generalize s.enumeration = values, t.enumeration = values' at first second
    cases first with
    | some formed =>
      cases second with
      | some formed' =>
        cases formed
        cases formed'
        exact .some same
  · rw [listing.member?_other here elements elements'] at first
    rw [unique_enumeration first second]
    cases t.enumeration with
    | none => exact .none
    | some values => exact .some (.refl values)

theorem exists_alternative_listing {i : Nat} {x : Schema} (member : (i, x) ∈ s.alternatives) :
    ∃ j, (j, x) ∈ t.alternatives := by
  obtain ⟨sub, inside, compiled⟩ := (left.mem_alternatives_iff i x).1 member
  obtain ⟨_, corresponds, there⟩ := listing.subschema_fill same inside
  cases corresponds with
  | refl => exact ⟨i, (right.mem_alternatives_iff i x).2 ⟨sub, there, compiled⟩⟩
  | alternative _ j => exact ⟨j, (right.mem_alternatives_iff j x).2 ⟨sub, there, compiled⟩⟩

theorem parallel_listing {R : Schema → Schema → Prop} (reflexive : ∀ x, R x x) : Parallel R s t := by
  obtain ⟨_, _, parts⟩ := compiles_iff.1 left
  obtain ⟨_, _, parts'⟩ := compiles_iff.1 right
  have plain {name : String} (plain : name ∉ ["type", "disallow", "enum"]) :
      (listing.fill elements).member? name = (listing.fill elements').member? name :=
    listing.member?_plain plain elements elements'
  have items := parts.items
  have additionalItems := parts.additionalItems
  have required := parts.required
  have properties := parts.properties
  have additionalProperties := parts.additionalProperties
  rw [plain (by decide)] at items additionalItems required properties additionalProperties
  exact {
    enumeration := rel_enumeration_listing same left right
    forth i x member := by
      obtain ⟨j, partner⟩ := exists_alternative_listing same left right member
      exact ⟨j, x, partner, reflexive x⟩
    back j y member := by
      obtain ⟨i, partner⟩ := exists_alternative_listing same.symm right left member
      exact ⟨i, y, partner, reflexive y⟩
    rules := by
      have other : ∀ name ∈ ruleNames, name ∉ ["type", "disallow", "enum"] := by decide
      exact left.rules_eq right fun name listed => plain (other name listed)
    items := items.unique parts'.items ▸ .refl reflexive s.items
    additionalItems := additionalItems.unique parts'.additionalItems ▸ .refl reflexive _
    required := unique_flag required parts'.required
    properties := properties.unique parts'.properties ▸
      List.forall₂_same.2 fun m _ => ⟨rfl, reflexive m.2⟩
    additionalProperties :=
      additionalProperties.unique parts'.additionalProperties ▸ .refl reflexive _ }

end Listing

end Schema

end JsonSchema
