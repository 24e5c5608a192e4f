import JsonSchema.Proofs.Compile.Filling
import JsonSchema.Proofs.Compile.Form
import JsonSchema.Proofs.Equality
import JsonSchema.Proofs.Ordered

set_option autoImplicit false

namespace JsonSchema

namespace Json

structure SameValue (v v' : Json) : Prop where
  sorted : v.Sorted
  sorted' : v'.Sorted
  equals : v.equals v' = true

namespace SameValue

theorem symm {v v' : Json} (same : v.SameValue v') : v'.SameValue v :=
  ⟨same.sorted', same.sorted, equals_symm same.sorted same.sorted' same.equals⟩

theorem elements {elements : List Json} {v' : Json} (same : (Json.array elements).SameValue v') :
    ∃ elements', v' = .array elements' ∧ List.Forall₂ SameValue elements elements' := by
  obtain ⟨sorted, sorted', equals⟩ := same
  cases equals_iff_alike.1 equals with
  | array each =>
    refine ⟨_, rfl, forall₂_imp_of_mem each fun e member e' member' equal => ?_⟩
    obtain ⟨step, place⟩ := exists_mem_places_array member
    obtain ⟨step', place'⟩ := exists_mem_places_array member'
    exact ⟨sorted.inside place, sorted'.inside place', equal⟩

theorem members {members : List (String × Json)} {v' : Json}
    (same : (Json.object members).SameValue v') :
    ∃ members', v' = .object members' ∧ AlignedBy SameValue members members' := by
  obtain ⟨sorted, sorted', equals⟩ := same
  cases equals_iff_alike.1 equals with
  | object =>
    refine ⟨_, rfl, forall₂_imp_of_mem ((equals_object_iff sorted sorted').1 equals) ?_⟩
    intro m member m' member' related
    obtain ⟨step, place⟩ := exists_mem_places_object member
    obtain ⟨step', place'⟩ := exists_mem_places_object member'
    exact ⟨related.1, sorted.inside place, sorted'.inside place', related.2⟩

theorem isObject_eq {v v' : Json} (same : v.SameValue v') : v.isObject = v'.isObject := by
  cases equals_iff_alike.1 same.equals <;> rfl

theorem text {text : String} {v' : Json} (same : (Json.string text).SameValue v') :
    v' = .string text := by
  cases equals_iff_alike.1 same.equals
  rfl

theorem keepsForm {v v' : Json} (same : v.SameValue v') : v.KeepsForm v' where
  text text equal := by
    subst equal
    exact same.text
  flag flag equal := by
    subst equal
    cases equals_iff_alike.1 same.equals
    rfl
  number n equal := by
    subst equal
    cases equals_iff_alike.1 same.equals with
    | number equal => exact ⟨_, rfl, ((Number.sameValue_iff ..).1 equal).symm⟩
  object object := same.isObject_eq ▸ object
  array elements equal := by
    subst equal
    obtain ⟨elements', rfl, each⟩ := same.elements
    refine ⟨elements', rfl, fun e' member => ?_⟩
    obtain ⟨e, listed, equal⟩ := exists_mem_of_forall₂ each.flip member
    refine ⟨e, listed, fun text written => ?_, fun object => ?_⟩
    · subst written
      exact equal.text
    · exact equal.isObject_eq ▸ object

theorem names {v v' : Json} (same : v.SameValue v') {k : Kind} (names : v.names k) :
    v'.names k := by
  cases v with
  | string text =>
    rw [same.text]
    exact names
  | array elements =>
    obtain ⟨elements', rfl, each⟩ := same.elements
    obtain ⟨text, member, named⟩ := names
    obtain ⟨e', member', equal⟩ := exists_mem_of_forall₂ each member
    rw [equal.text] at member'
    exact ⟨text, member', named⟩
  | _ => cases names

section Documents

variable {raw raw' : Json} (same : raw.SameValue raw')
include same

theorem rel_member? (name : String) :
    Option.Rel SameValue (raw.member? name) (raw'.member? name) := by
  cases raw with
  | object members =>
    obtain ⟨members', rfl, aligned⟩ := same.members
    exact aligned.rel_lookup name
  | _ =>
    cases equals_iff_alike.1 same.equals
    exact .none

theorem member? {name : String} {v : Json} (declared : raw.member? name = some v) :
    ∃ v', raw'.member? name = some v' ∧ v.SameValue v' := by
  have related := same.rel_member? name
  rw [declared] at related
  generalize raw'.member? name = value at related
  cases related with
  | some equal => exact ⟨_, rfl, equal⟩

theorem subschema {position : Position} {sub : Json} (inside : Subschema raw position sub) :
    ∃ sub', Subschema raw' position sub' ∧ sub.SameValue sub' := by
  have element {elements elements' : List Json} {place : Nat}
      (each : List.Forall₂ SameValue elements elements') (found : elements[place]? = some sub) :
      ∃ sub', elements'[place]? = some sub' ∧ sub.SameValue sub' := by
    have related := rel_getElem?_of_forall₂ each.flip place
    rw [found] at related
    exact exists_of_rel_some related
  cases inside with
  | alternative declared found object =>
    obtain ⟨_, declared', equal⟩ := same.member? declared
    obtain ⟨_, rfl, each⟩ := equal.elements
    obtain ⟨sub', found', equal⟩ := element each found
    exact ⟨sub', .alternative declared' found' (equal.isObject_eq ▸ object), equal⟩
  | disallowed declared found object =>
    obtain ⟨_, declared', equal⟩ := same.member? declared
    obtain ⟨_, rfl, each⟩ := equal.elements
    obtain ⟨sub', found', equal⟩ := element each found
    exact ⟨sub', .disallowed declared' found' (equal.isObject_eq ▸ object), equal⟩
  | items declared object =>
    obtain ⟨sub', declared', equal⟩ := same.member? declared
    exact ⟨sub', .items declared' (equal.isObject_eq ▸ object), equal⟩
  | item declared found =>
    obtain ⟨_, declared', equal⟩ := same.member? declared
    obtain ⟨_, rfl, each⟩ := equal.elements
    obtain ⟨sub', found', equal⟩ := element each found
    exact ⟨sub', .item declared' found', equal⟩
  | additionalItems declared object =>
    obtain ⟨sub', declared', equal⟩ := same.member? declared
    exact ⟨sub', .additionalItems declared' (equal.isObject_eq ▸ object), equal⟩
  | property declared member =>
    obtain ⟨_, declared', equal⟩ := same.member? declared
    obtain ⟨_, rfl, aligned⟩ := equal.members
    obtain ⟨sub', member', equal⟩ := aligned.mem_left member
    exact ⟨sub', .property declared' member', equal⟩
  | additionalProperties declared object =>
    obtain ⟨sub', declared', equal⟩ := same.member? declared
    exact ⟨sub', .additionalProperties declared' (equal.isObject_eq ▸ object), equal⟩

theorem typesWithin (nested : ∀ position sub sub', Subschema raw position sub →
      Subschema raw' position sub' → sub.SameValue sub' →
      ∀ k, sub.allowedKinds k → sub'.allowedKinds k) : raw.TypesWithin raw' where
  unset absent := by
    have related := same.rel_member? "type"
    rw [absent] at related
    generalize raw'.member? "type" = value at related
    cases related
    rfl
  names keyword k declared := by
    obtain ⟨value, declared, names⟩ := declared
    obtain ⟨value', declared', equal⟩ := same.member? declared
    exact ⟨value', declared', equal.names names⟩
  nested position sub inside := by
    obtain ⟨sub', there, equal⟩ := same.subschema inside
    exact ⟨position, sub', .refl position, there, nested position sub sub' inside there equal⟩

theorem kinds_iff :
    (∀ k, raw.allowedKinds k ↔ raw'.allowedKinds k) ∧
      ∀ k, raw.grantedKinds k ↔ raw'.grantedKinds k := by
  induction raw using Subschema.induction generalizing raw' with
  | step raw ih =>
    have forth := same.typesWithin fun position sub _ inside _ equal k =>
      ((ih position sub inside equal).1 k).1
    have back := same.symm.typesWithin fun position _ sub _ inside equal k =>
      ((ih position sub inside equal.symm).1 k).2
    exact ⟨allowedKinds_iff_of_within forth back, grantedKinds_iff_of_within forth back⟩

end Documents

end SameValue

end Json

inductive PlainCounts : Json → Prop where
  | intro {raw : Json}
      (here : ∀ keyword ∈ ["minLength", "maxLength", "minItems", "maxItems"],
        raw.Holds keyword fun v => ∀ x, v ≠ .number (.float x))
      (nested : ∀ position sub, Subschema raw position sub → PlainCounts sub) : PlainCounts raw

section

variable [PatternEngine]

theorem WellFormed.plainCounts {raw : Json} (wellFormed : WellFormed raw) : PlainCounts raw := by
  induction wellFormed with
  | intro form _ ih =>
    refine .intro (fun keyword listed v declared x float => ?_) ih
    obtain ⟨count, fits, integer⟩ := form.counts keyword listed v declared
    rw [float] at integer
    cases integer

theorem WellFormed.of_sameValue {raw raw' : Json} (wellFormed : WellFormed raw)
    (same : raw.SameValue raw') (plain : PlainCounts raw') : WellFormed raw' := by
  induction wellFormed generalizing raw' with
  | @intro raw form nested ih =>
    obtain ⟨here, below⟩ := plain
    have keeps (name : String) (v' : Json) (declared' : raw'.member? name = some v') :
        ∃ v, raw.member? name = some v ∧ v.KeepsForm v' := by
      obtain ⟨v, declared, equal⟩ := same.symm.member? declared'
      exact ⟨v, declared, equal.symm.keepsForm⟩
    refine .intro (form.transfer keeps (same.isObject_eq ▸ form.object) same.kinds_iff.1 ?_)
      fun position sub' inside' => ?_
    · intro keyword listed v' declared'
      obtain ⟨v, declared, equal⟩ := same.symm.member? declared'
      obtain ⟨count, fits, rfl⟩ := form.counts keyword listed v declared
      cases Json.equals_iff_alike.1 equal.equals with
      | @number n _ value =>
        cases n with
        | integer written fits' =>
          rw [Number.sameValue_iff, Number.units, Number.units, Number.units_integer_eq_iff] at value
          subst value
          exact ⟨count, fits', rfl⟩
        | float x => exact absurd rfl (here keyword listed _ declared' x)
    · obtain ⟨sub, inside, equal⟩ := same.symm.subschema inside'
      exact ih position sub inside equal.symm (below position sub' inside')

namespace Schema

/-- Equal schema documents differ in validity only where a count is written as a float: one document
is a schema exactly where the other has no such count. Both allow and grant the same kinds. -/
theorem compile_of_equals {raw raw' : Json} (sorted : raw.Sorted) (sorted' : raw'.Sorted)
    (same : raw.equals raw' = true) {s : Schema} (compiled : (Node.compile raw).schema? = some s) :
    ((Node.compile raw').isValid = true ↔ PlainCounts raw') ∧
      ∀ t, (Node.compile raw').schema? = some t → s.allowed = t.allowed ∧ s.named = t.named := by
  have equal : raw.SameValue raw' := ⟨sorted, sorted', same⟩
  have compiles := compiles_of_schema? compiled
  have wellFormed : WellFormed raw := wellFormed_iff.2 ⟨s, compiles⟩
  constructor
  · rw [isValid_compile_iff, ← wellFormed_iff]
    exact ⟨WellFormed.plainCounts, wellFormed.of_sameValue equal⟩
  · intro t accepted
    have compiles' := compiles_of_schema? accepted
    exact ⟨compiles.allowed_eq compiles' equal.kinds_iff.1,
      compiles.named_eq compiles' equal.kinds_iff.2⟩

end Schema

end

namespace Schema

def lengthSchema (length : Number) : Json :=
  .object [("minLength", .number length), ("type", .string "string")]

def limitSchema (limit length : Number) : Json :=
  .object [("minimum", .number limit), ("type", .array [.string "number", lengthSchema length])]

def fourteen : Number := .integer 14 (by decide)

def fourteenFloat : Number := .float ⟨false, 7 <<< 50, 1025, by decide, by decide, .inr (by decide)⟩

theorem sorted_lengthSchema (length : Number) : (lengthSchema length).Sorted := by
  have keys : ["minLength", "type"].Pairwise (· < ·) := by decide
  have number : (Json.number length).Sorted := Json.sorted_of_places_eq_nil rfl
  have text : (Json.string "string").Sorted := Json.sorted_of_places_eq_nil rfl
  exact Json.sorted_object keys (by simpa using ⟨number, text⟩)

theorem sorted_limitSchema (limit length : Number) : (limitSchema limit length).Sorted := by
  have keys : ["minimum", "type"].Pairwise (· < ·) := by decide
  have number : (Json.number limit).Sorted := Json.sorted_of_places_eq_nil rfl
  have text : (Json.string "number").Sorted := Json.sorted_of_places_eq_nil rfl
  have types : (Json.array [.string "number", lengthSchema length]).Sorted :=
    Json.sorted_array (by simpa using ⟨text, sorted_lengthSchema length⟩)
  exact Json.sorted_object keys (by simpa using ⟨number, types⟩)

theorem compile_of_equals_fourteen :
    ∃ s t, (Node.compile (limitSchema fourteen fourteen)).schema? = some s ∧
      (Node.compile (limitSchema fourteenFloat fourteen)).schema? = some t ∧
      (limitSchema fourteen fourteen).Sorted ∧ (limitSchema fourteenFloat fourteen).Sorted ∧
      (limitSchema fourteen fourteenFloat).Sorted ∧
      (limitSchema fourteen fourteen).equals (limitSchema fourteenFloat fourteen) = true ∧
      (limitSchema fourteen fourteen).equals (limitSchema fourteen fourteenFloat) = true ∧
      s.allowed = t.allowed ∧ s.named = t.named ∧ PlainCounts (limitSchema fourteenFloat fourteen) ∧
      ¬PlainCounts (limitSchema fourteen fourteenFloat) := by
  have compiled : ∃ s t, (Node.compile (limitSchema fourteen fourteen)).schema? = some s ∧
      (Node.compile (limitSchema fourteenFloat fourteen)).schema? = some t := ⟨_, _, rfl, rfl⟩
  obtain ⟨s, t, compiled, compiled'⟩ := compiled
  have sorted := sorted_limitSchema
  have limits :
      (limitSchema fourteen fourteen).equals (limitSchema fourteenFloat fourteen) = true := by
    decide +kernel
  have lengths :
      (limitSchema fourteen fourteen).equals (limitSchema fourteen fourteenFloat) = true := by
    decide +kernel
  have limit := compile_of_equals (sorted _ _) (sorted _ _) limits compiled
  have length := compile_of_equals (sorted _ _) (sorted _ _) lengths compiled
  have kinds := limit.2 t compiled'
  refine ⟨s, t, compiled, compiled', sorted _ _, sorted _ _, sorted _ _, limits, lengths, kinds.1,
    kinds.2, limit.1.1 rfl, fun plain => ?_⟩
  cases length.1.2 plain

-- The one length is as good as the other, but only the first is read.
theorem not_valid_of_equals_length :
    (lengthSchema fourteen).Sorted ∧ (lengthSchema fourteenFloat).Sorted ∧
      (lengthSchema fourteen).equals (lengthSchema fourteenFloat) = true ∧
      Kind.of (.number fourteenFloat) = .integer ∧
      (Node.compile (lengthSchema fourteen)).isValid = true ∧
      (Node.compile (lengthSchema fourteenFloat)).isValid = false ∧
      (Node.compile (lengthSchema fourteenFloat)).messages =
        ["minLength property must be a non-negative integer"] :=
  ⟨sorted_lengthSchema fourteen, sorted_lengthSchema fourteenFloat, by decide +kernel,
    by decide +kernel, rfl, rfl, by decide +kernel⟩

end Schema

end JsonSchema
