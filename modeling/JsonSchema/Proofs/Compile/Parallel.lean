import JsonSchema.Proofs.Compile.Tree
import JsonSchema.Proofs.Compile.Lookup

set_option autoImplicit false

namespace JsonSchema

section Rel

variable {α β : Type}

inductive Items.Rel (R : α → β → Prop) : Items α → Items β → Prop where
  | any : Rel R .any .any
  | uniform {a : α} {b : β} (related : R a b) : Rel R (.uniform a) (.uniform b)
  | tuple {as : List α} {bs : List β} (related : List.Forall₂ R as bs) :
      Rel R (.tuple as) (.tuple bs)

inductive Additional.Rel (R : α → β → Prop) : Additional α → Additional β → Prop where
  | allowed : Rel R .allowed .allowed
  | forbidden : Rel R .forbidden .forbidden
  | schema {a : α} {b : β} (related : R a b) : Rel R (.schema a) (.schema b)

theorem Items.Rel.refl {R : α → α → Prop} (reflexive : ∀ a, R a a) (items : Items α) :
    items.Rel R items := by
  cases items with
  | any => exact .any
  | uniform => exact .uniform (reflexive _)
  | tuple => exact .tuple (List.forall₂_same.2 fun a _ => reflexive a)

theorem Additional.Rel.refl {R : α → α → Prop} (reflexive : ∀ a, R a a) (additional : Additional α) :
    additional.Rel R additional := by
  cases additional with
  | allowed => exact .allowed
  | forbidden => exact .forbidden
  | schema => exact .schema (reflexive _)

theorem Additional.Rel.rel_schema? {R : α → β → Prop} {a : Additional α} {b : Additional β}
    (related : a.Rel R b) : Option.Rel R a.schema? b.schema? := by
  cases related with
  | allowed | forbidden => exact .none
  | schema related => exact .some related

end Rel

variable [PatternEngine]

namespace Schema

def Paired (R : Schema → Schema → Prop) (u v : Json) : Prop :=
  ∀ x y, Compiles u x → Compiles v y → R x y

section Paired

variable {R : Schema → Schema → Prop}

theorem Paired.refl (reflexive : ∀ x, R x x) (u : Json) : Paired R u u := by
  intro x y left right
  cases left.unique right
  exact reflexive x

theorem forall₂_of_paired {us vs : List Json} {ss ts : List Schema}
    (paired : List.Forall₂ (Paired R) us vs) (left : List.Forall₂ Compiles us ss)
    (right : List.Forall₂ Compiles vs ts) : List.Forall₂ R ss ts := by
  induction paired generalizing ss ts with
  | nil =>
    cases left
    cases right
    exact .nil
  | cons head _ ih =>
    cases left with
    | cons first rest =>
      cases right with
      | cons first' rest' => exact .cons (head _ _ first first') (ih rest rest')

theorem alignedBy_of_paired {us vs : List (String × Json)} {ss ts : List (String × Schema)}
    (paired : AlignedBy (Paired R) us vs) (left : AlignedBy Compiles us ss)
    (right : AlignedBy Compiles vs ts) : AlignedBy R ss ts := by
  induction paired generalizing ss ts with
  | nil =>
    cases left
    cases right
    exact .nil
  | cons head _ ih =>
    cases left with
    | cons first rest =>
      cases right with
      | cons first' rest' =>
        have name := first.1.symm.trans (head.1.trans first'.1)
        exact .cons ⟨name, head.2 _ _ first.2 first'.2⟩ (ih rest rest')

end Paired

theorem paired_of_compiles {R : Schema → Schema → Prop} {u v : Json} {x y : Schema}
    (left : Compiles u x) (right : Compiles v y) (related : R x y) : Paired R u v := by
  intro x' y' left' right'
  rw [← left.unique left', ← right.unique right']
  exact related

-- The alternatives may stand at other places, and the values of the enumeration in another order.
structure Parallel (R : Schema → Schema → Prop) (s t : Schema) : Prop where
  enumeration : Option.Rel SameMembers s.enumeration t.enumeration
  forth : ∀ i x, (i, x) ∈ s.alternatives → ∃ j y, (j, y) ∈ t.alternatives ∧ R x y
  back : ∀ j y, (j, y) ∈ t.alternatives → ∃ i x, (i, x) ∈ s.alternatives ∧ R x y
  rules : s.rules = t.rules
  items : s.items.Rel R t.items
  additionalItems : s.additionalItems.Rel R t.additionalItems
  required : s.required = t.required
  properties : AlignedBy R s.properties t.properties
  additionalProperties : s.additionalProperties.Rel R t.additionalProperties

namespace Parallel

open Keyword (Members)

variable {R : Schema → Schema → Prop} {s t : Schema} (parallel : Parallel R s t)
include parallel

theorem rel_at? (step : Step) : Option.Rel R (s.at? step) (t.at? step) := by
  cases step with
  | key name =>
    exact rel_or (parallel.properties.rel_lookup name) parallel.additionalProperties.rel_schema?
  | index place =>
    have items := parallel.items
    unfold at? itemSchema?
    generalize s.items = left, t.items = right at items
    cases items with
    | any => exact .none
    | uniform related => exact .some related
    | tuple related =>
      exact rel_or (rel_getElem?_of_forall₂ related place) parallel.additionalItems.rel_schema?

theorem tupleMessages_eq (elements : List Json) :
    s.tupleMessages elements = t.tupleMessages elements := by
  have items := parallel.items
  have additional := parallel.additionalItems
  unfold tupleMessages
  generalize s.items = i, t.items = i', s.additionalItems = a, t.additionalItems = a'
    at items additional
  cases items with
  | any | uniform => rfl
  | tuple related =>
    cases additional with
    | allowed | schema => rfl
    | forbidden => simp only [related.length_eq]

theorem additionalMessages_eq (members : Members) :
    s.additionalMessages members = t.additionalMessages members := by
  have unlisted (name : String) :
      (s.properties.lookup name).isNone = (t.properties.lookup name).isNone := by
    have related := parallel.properties.rel_lookup name
    generalize s.properties.lookup name = x, t.properties.lookup name = y at related
    cases related <;> rfl
  have additional := parallel.additionalProperties
  unfold additionalMessages
  generalize s.additionalProperties = a, t.additionalProperties = a' at additional
  cases additional with
  | allowed | schema => rfl
  | forbidden => simp only [unlisted]

-- Of the nested schemas a message tells at most which of them are required.
variable (flags : ∀ x y, R x y → x.required = y.required)
include flags

theorem requiredMessages_eq (members : Members) :
    s.requiredMessages members = t.requiredMessages members := by
  have properties := parallel.properties
  unfold requiredMessages
  generalize s.properties = left, t.properties = right at properties
  induction properties with
  | nil => rfl
  | @cons a b _ _ head _ ih =>
    obtain ⟨name, related⟩ := head
    simp only [List.filter_cons, flags _ _ related, name]
    split
    · rw [List.map_cons, List.map_cons, ih, name]
    · exact ih

theorem messages_eq (v : Json) : s.messages v = t.messages v := by
  cases v with
  | null | bool => rfl
  | number | string => simp only [messages, parallel.rules]
  | array elements => simp only [messages, parallel.rules, parallel.tupleMessages_eq elements]
  | object members =>
    simp only [messages, parallel.requiredMessages_eq flags members,
      parallel.additionalMessages_eq members]

end Parallel

end Schema

end JsonSchema
