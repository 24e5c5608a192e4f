import JsonSchema.Node
import JsonSchema.Proofs.Compile.Lookup
import JsonSchema.Proofs.Keyword.Fits
import JsonSchema.Proofs.Ordered

set_option autoImplicit false

namespace JsonSchema

open Keyword (Members)

variable [PatternEngine]

def missingText (name : String) : String := "required property " ++ name ++ " is missing"

def extraText (name : String) : String := "additional property " ++ name ++ " is not allowed"

def behindTupleText (count found : Nat) : String :=
  "additional items are not allowed (tuple of " ++ toString count ++ ", found " ++ toString found ++ ")"

-- The other messages about an array have another second letter.
theorem ValueRules.second_of_mem_arrayMessages {r : ValueRules} {elements : List Json}
    {text : String} (member : text ∈ r.arrayMessages elements) : text.toList[1]? = some 'r' := by
  simp only [arrayMessages, minItemsMessages, maxItemsMessages, uniqueMessages, messageIf,
    List.mem_append] at member
  rcases member with (few | many) | equal
  · generalize r.minItems = limit at few
    cases limit with
    | none => cases few
    | some least =>
      simp only [List.mem_ite_nil_right, List.mem_singleton] at few
      simp [few.2]
  · generalize r.maxItems = limit at many
    cases limit with
    | none => cases many
    | some greatest =>
      simp only [List.mem_ite_nil_right, List.mem_singleton] at many
      simp [many.2]
  · simp only [List.mem_ite_nil_right, List.mem_singleton] at equal
    simp [equal.2]

namespace Schema

structure MembersTold (raw : Json) (s : Schema) (members : Members) (missing extra : List String) :
    Prop where
  texts : (Node.compile raw).keywordMessages (.object members) =
    missing.map missingText ++ extra.map extraText
  missing_increase : missing.Pairwise (· < ·)
  extra_increase : extra.Pairwise (· < ·)
  mem_missing_iff : ∀ name, name ∈ missing ↔
    (∃ sub, raw.property? name = some sub ∧ sub.member? "required" = some (.bool true)) ∧
      name ∉ members.map Prod.fst
  mem_extra_iff : ∀ name, name ∈ extra ↔ name ∈ members.map Prod.fst ∧
    s.propertySchema? name = none ∧ raw.member? "additionalProperties" = some (.bool false)

structure LeavesBehind (raw : Json) (s : Schema) (length : Nat) : Prop where
  tuple : ∃ subs, raw.member? "items" = some (.array subs)
  forbidden : raw.member? "additionalItems" = some (.bool false)
  behind : ∃ i < length, s.itemSchema? i = none

structure ElementsTold (raw : Json) (s : Schema) (elements : List Json) (others told : List String) :
    Prop where
  texts : (Node.compile raw).keywordMessages (.array elements) = others ++ told
  others_differ : ∀ text ∈ others, ∀ rest, text ≠ "additional items" ++ rest
  told_of_behind : LeavesBehind raw s elements.length → ∃ subs,
    raw.member? "items" = some (.array subs) ∧ told = [behindTupleText subs.length elements.length]
  silent_of_not_behind : ¬LeavesBehind raw s elements.length → told = []

theorem Compiles.keywordMessages_eq {raw : Json} {s : Schema} (compiled : Compiles raw s) (v : Json) :
    (Node.compile raw).keywordMessages v = s.messages v := by
  rw [Node.compile, Node.keywordMessages, compiled]

section Readers

variable {value : Option Json}

theorem AreItems.tuple_iff {items : Items Schema} (read : AreItems value items) :
    (∃ subs, value = some (.array subs)) ↔ ∃ schemas, items = .tuple schemas := by
  cases read with
  | any absent => simp [absent]
  | uniform declared object =>
    obtain ⟨inner, rfl⟩ := (Json.isObject_iff _).1 object
    simp [declared]
  | tuple declared => simp [declared]

theorem AreProperties.increasing {raw : Json} {properties : List (String × Schema)}
    (read : AreProperties (raw.member? "properties") properties) (sorted : raw.Sorted) :
    (properties.map Prod.fst).Pairwise (· < ·) := by
  cases read with
  | absent => exact .nil
  | @object inner _ declared compiled =>
    cases raw with
    | object members =>
      have inside : (Json.object inner).Sorted :=
        sorted.inside ((Json.mem_places_object ..).2 ⟨_, mem_of_lookup declared, rfl⟩)
      rw [← compiled.keys_eq]
      exact inside.ordered inner rfl
    | _ => cases declared

end Readers

section Members

variable {raw : Json} {s : Schema} (compiled : Compiles raw s) (members : Members)
include compiled

-- The names without a value among the members, of the properties that are required.
theorem Compiles.requiredMessages_eq (sorted : raw.Sorted) : ∃ missing : List String,
    s.requiredMessages members = missing.map missingText ∧ missing.Pairwise (· < ·) ∧
      ∀ name, name ∈ missing ↔
        (∃ sub, raw.property? name = some sub ∧ sub.member? "required" = some (.bool true)) ∧
          name ∉ members.map Prod.fst := by
  obtain ⟨_, _, parts⟩ := compiles_iff.1 compiled
  have increasing := parts.properties.increasing sorted
  have distinct : (s.properties.map Prod.fst).Nodup := increasing.imp String.ne_of_lt
  refine ⟨(s.properties.filter fun m => m.2.required && (members.lookup m.1).isNone).map Prod.fst,
    ?_, ?_, fun name => ?_⟩
  · rw [requiredMessages, List.map_map]
    rfl
  · exact increasing.sublist (List.filter_sublist.map Prod.fst)
  · have listed : (∃ t, (name, t) ∈ s.properties ∧ t.required = true) ↔
        ∃ sub, raw.property? name = some sub ∧ sub.member? "required" = some (.bool true) := by
      have related := parts.properties.rel_lookup name
      constructor
      · intro listed
        obtain ⟨t, member, required⟩ := listed
        rw [lookup_eq_some_of_mem distinct member] at related
        obtain ⟨sub, declared, nested⟩ := exists_of_rel_some related
        exact ⟨sub, declared, nested.required_iff.1 required⟩
      · intro declared
        obtain ⟨sub, declared, required⟩ := declared
        rw [declared] at related
        generalize found : s.properties.lookup name = partner at related
        cases related with
        | some nested => exact ⟨_, mem_of_lookup found, nested.required_iff.2 required⟩
    have lacks : (members.lookup name).isNone = true ↔ name ∉ members.map Prod.fst := by
      rw [← isSome_lookup_iff, ← Option.not_isSome, Bool.not_eq_true', Bool.not_eq_true]
    rw [← listed, ← lacks]
    simp only [List.mem_map, List.mem_filter, Bool.and_eq_true, Prod.exists, exists_and_right,
      exists_eq_right, ← and_assoc]

theorem Compiles.additionalMessages_eq (increasing : (members.map Prod.fst).Pairwise (· < ·)) :
    ∃ extra : List String, s.additionalMessages members = extra.map extraText ∧
      extra.Pairwise (· < ·) ∧ ∀ name, name ∈ extra ↔ name ∈ members.map Prod.fst ∧
        s.propertySchema? name = none ∧ raw.member? "additionalProperties" = some (.bool false) := by
  obtain ⟨_, _, parts⟩ := compiles_iff.1 compiled
  rw [← parts.additionalProperties.eq_forbidden_iff]
  unfold additionalMessages propertySchema?
  cases s.additionalProperties with
  | allowed | schema => exact ⟨[], rfl, .nil, fun name => by simp⟩
  | forbidden =>
    refine ⟨(members.filter fun m => (s.properties.lookup m.1).isNone).map Prod.fst, ?_, ?_, ?_⟩
    · rw [List.map_map]
      rfl
    · exact increasing.sublist (List.filter_sublist.map Prod.fst)
    · intro name
      simp [Additional.schema?]

theorem Compiles.membersTold (sorted : raw.Sorted)
    (increasing : (members.map Prod.fst).Pairwise (· < ·)) :
    ∃ missing extra, MembersTold raw s members missing extra := by
  obtain ⟨missing, required, missing_increase, mem_missing_iff⟩ :=
    compiled.requiredMessages_eq members sorted
  obtain ⟨extra, additional, extra_increase, mem_extra_iff⟩ :=
    compiled.additionalMessages_eq members increasing
  refine ⟨missing, extra,
    { missing_increase, extra_increase, mem_missing_iff, mem_extra_iff, texts := ?_ }⟩
  rw [compiled.keywordMessages_eq, messages, required, additional]

end Members

section Elements

theorem tupleMessages_of_forbidden {s : Schema} {schemas : List Schema}
    (tuple : s.items = .tuple schemas) (forbidden : s.additionalItems = .forbidden)
    (elements : List Json) : s.tupleMessages elements =
      messageIf (schemas.length < elements.length)
        (behindTupleText schemas.length elements.length) := by
  unfold tupleMessages
  rw [tuple, forbidden]
  rfl

variable {raw : Json} {s : Schema} (compiled : Compiles raw s)
include compiled

theorem Compiles.leavesBehind_iff (length : Nat) : LeavesBehind raw s length ↔
    ∃ schemas, s.items = .tuple schemas ∧ s.additionalItems = .forbidden ∧
      schemas.length < length := by
  obtain ⟨_, _, parts⟩ := compiles_iff.1 compiled
  have absent {schemas : List Schema} (tuple : s.items = .tuple schemas)
      (forbidden : s.additionalItems = .forbidden) (i : Nat) :
      s.itemSchema? i = none ↔ schemas.length ≤ i := by
    rw [itemSchema?, tuple, forbidden]
    simp [Additional.schema?]
  constructor
  · intro leaves
    obtain ⟨schemas, tuple⟩ := parts.items.tuple_iff.1 leaves.tuple
    have forbidden := parts.additionalItems.eq_forbidden_iff.2 leaves.forbidden
    obtain ⟨i, within, behind⟩ := leaves.behind
    exact ⟨schemas, tuple, forbidden, Nat.lt_of_le_of_lt ((absent tuple forbidden i).1 behind) within⟩
  · intro longer
    obtain ⟨schemas, tuple, forbidden, longer⟩ := longer
    exact {
      tuple := parts.items.tuple_iff.2 ⟨schemas, tuple⟩
      forbidden := parts.additionalItems.eq_forbidden_iff.1 forbidden
      behind := ⟨schemas.length, longer, (absent tuple forbidden _).2 (Nat.le_refl _)⟩ }

theorem Compiles.elementsTold (elements : List Json) :
    ∃ others told, ElementsTold raw s elements others told := by
  obtain ⟨_, _, parts⟩ := compiles_iff.1 compiled
  refine ⟨s.rules.arrayMessages elements, s.tupleMessages elements, {
    texts := compiled.keywordMessages_eq _
    others_differ := ?_
    told_of_behind := ?_
    silent_of_not_behind := ?_ }⟩
  · intro text member rest same
    have second := ValueRules.second_of_mem_arrayMessages member
    rw [same] at second
    simp at second
  · intro leaves
    obtain ⟨schemas, tuple, forbidden, longer⟩ := (compiled.leavesBehind_iff _).1 leaves
    have items := parts.items
    rw [tuple] at items
    cases items with
    | tuple declared nested =>
      refine ⟨_, declared, ?_⟩
      rw [tupleMessages_of_forbidden tuple forbidden, messageIf, decide_eq_true longer, if_pos rfl,
        nested.length_eq]
  · intro short
    rw [compiled.leavesBehind_iff] at short
    unfold tupleMessages
    split
    next schemas tuple forbidden =>
      have within : ¬schemas.length < elements.length :=
        fun longer => short ⟨schemas, tuple, forbidden, longer⟩
      simp [messageIf, within]
    next => rfl

end Elements

end Schema

end JsonSchema
