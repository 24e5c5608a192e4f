import JsonSchema.Proofs.Meaning
import JsonSchema.Proofs.Visit.Additional
import Mathlib.Data.Set.Card

set_option autoImplicit false

namespace JsonSchema

def repeatedText : String := "array elements are not unique"

namespace Json

noncomputable def valueCount (elements : List Json) : Nat := {m | m ∈ elements.map meaning}.ncard

theorem valueCount_lt_length_iff (elements : List Json) :
    valueCount elements < elements.length ↔ ¬(elements.map meaning).Nodup := by
  classical
  have counted : valueCount elements = (elements.map meaning).toFinset.card := by
    rw [valueCount, ← List.coe_toFinset, Set.ncard_coe_finset]
  have length : elements.length = (elements.map meaning).length := (List.length_map _).symm
  rw [counted, length]
  constructor
  · intro fewer distinct
    rw [List.toFinset_card_of_nodup distinct] at fewer
    exact Nat.lt_irrefl _ fewer
  · intro repeated
    refine Nat.lt_of_le_of_ne (List.toFinset_card_le _) fun same => repeated ?_
    exact Multiset.toFinset_card_eq_card_iff_nodup.1 same

-- The scan compares an element with those behind it only, which is enough as equality is equality
-- of what two values say.
theorem hasDuplicate_iff {elements : List Json} (sorted : ∀ e ∈ elements, e.Sorted) :
    hasDuplicate elements = true ↔ ¬(elements.map meaning).Nodup := by
  rw [← Bool.not_eq_false, hasDuplicate_eq_false_iff, List.Nodup, List.pairwise_map,
    not_iff_not]
  refine List.Pairwise.iff_of_mem fun {a b} member member' => ?_
  rw [← Bool.not_eq_true, equals_iff_meaning_eq (sorted a member) (sorted b member')]

section Arrays

variable {elements others : List Json}

theorem hasDuplicate_perm (sorted : ∀ e ∈ elements, e.Sorted) (perm : others.Perm elements) :
    hasDuplicate others = hasDuplicate elements := by
  have sorted' : ∀ e ∈ others, e.Sorted := fun e member => sorted e (perm.subset member)
  rw [Bool.eq_iff_iff, hasDuplicate_iff sorted, hasDuplicate_iff sorted', (perm.map meaning).nodup_iff]

theorem hasDuplicate_of_sublist (sorted : ∀ e ∈ others, e.Sorted) (fewer : elements.Sublist others)
    (duplicate : hasDuplicate elements = true) : hasDuplicate others = true := by
  have sorted' : ∀ e ∈ elements, e.Sorted := fun e member => sorted e (fewer.subset member)
  rw [hasDuplicate_iff sorted'] at duplicate
  rw [hasDuplicate_iff sorted]
  exact fun distinct => duplicate (distinct.sublist (fewer.map meaning))

end Arrays

end Json

section

variable [PatternEngine]

section Texts

-- The messages about an array begin alike, the first difference is in the seventh letter.
theorem ValueRules.seventh_of_mem_limits {r : ValueRules} {length : Nat} {text : String}
    (member : text ∈ minItemsMessages length r.minItems ++ maxItemsMessages length r.maxItems) :
    text.toList[6]? = some 'h' := by
  rcases List.mem_append.1 member with few | many
  · generalize r.minItems = limit at few
    cases limit with
    | none => cases few
    | some least =>
      simp only [minItemsMessages, messageIf, List.mem_ite_nil_right, List.mem_singleton] at few
      simp [few.2]
  · generalize r.maxItems = limit at many
    cases limit with
    | none => cases many
    | some greatest =>
      simp only [maxItemsMessages, messageIf, List.mem_ite_nil_right, List.mem_singleton] at many
      simp [many.2]

theorem Schema.seventh_of_mem_tupleMessages {s : Schema} {elements : List Json} {text : String}
    (member : text ∈ s.tupleMessages elements) : text.toList[6]? = some 'o' := by
  unfold tupleMessages at member
  split at member
  · simp only [messageIf, List.mem_ite_nil_right, List.mem_singleton] at member
    simp [member.2]
  · cases member

end Texts

theorem ValueRules.count_uniqueMessages {r : ValueRules} (asked : r.uniqueItems = true)
    (elements : List Json) :
    (r.uniqueMessages elements).count repeatedText =
      if Json.hasDuplicate elements = true then 1 else 0 := by
  rw [uniqueMessages, messageIf, asked, Bool.true_and]
  split
  · exact List.count_singleton_self
  · rfl

namespace Schema

theorem count_messages_array {s : Schema} (asked : s.rules.uniqueItems = true)
    (elements : List Json) :
    (s.messages (.array elements)).count repeatedText =
      if Json.hasDuplicate elements = true then 1 else 0 := by
  have limits : repeatedText ∉ ValueRules.minItemsMessages elements.length s.rules.minItems ++
      ValueRules.maxItemsMessages elements.length s.rules.maxItems := fun member =>
    absurd (ValueRules.seventh_of_mem_limits member) (by decide)
  have tuple : repeatedText ∉ s.tupleMessages elements := fun member =>
    absurd (seventh_of_mem_tupleMessages member) (by decide)
  rw [messages, ValueRules.arrayMessages, List.count_append, List.count_append,
    List.count_eq_zero_of_not_mem limits, List.count_eq_zero_of_not_mem tuple, Nat.zero_add,
    Nat.add_zero, s.rules.count_uniqueMessages asked]

theorem Enters.count_visit {o : Options} {s : Schema} {v : Json} {p : Pointer}
    (enters : Enters o [] s v p) (text : String) :
    (s.visit o [] v p).count ⟨.keyword, p, text⟩ = (s.messages v).count text := by
  have enumeration : ⟨.keyword, p, text⟩ ∉ enumDiagnostics s v p := by
    intro member
    rcases enumDiagnostics_eq s v p with silent | ⟨message, mismatch⟩
    · rw [silent] at member
      cases member
    · rw [mismatch, List.mem_singleton] at member
      cases member
  have below : ⟨.keyword, p, text⟩ ∉ v.places.flatMap fun x =>
      stepDiagnostics o [] s p x.1 x.2 := by
    intro member
    obtain ⟨x, _, found⟩ := List.mem_flatMap.1 member
    exact p.not_step_above x.1 ((stepDiagnostics_shaped o [] s enters.shallow x.1 x.2).above found)
  have keywords : keywordTexts o [] s v p = s.messages v := by
    rw [keywordTexts, enters.structural, if_pos rfl, List.flatMap_nil, List.append_nil]
  have injective : Function.Injective fun text => (⟨.keyword, p, text⟩ : Diagnostic) := fun _ _ same =>
    congrArg Diagnostic.message same
  rw [(Visited.typed enters.shallow enters.allowed enters.typed).eq, ownDiagnostics_eq,
    List.count_append, List.count_append, List.count_eq_zero_of_not_mem enumeration,
    List.count_eq_zero_of_not_mem below, Nat.zero_add, Nat.add_zero, keywords]
  exact List.count_map_of_injective (s.messages v) _ injective text

end Schema

def Node.timesRepeated (node : Node) (elements : List Json) : Nat :=
  (node.keywordMessages (.array elements)).count repeatedText

namespace Schema

section Unique

variable {raw : Json} {s : Schema} (compiled : Compiles raw s)
  (asked : raw.member? "uniqueItems" = some (.bool true))
include compiled asked

theorem Compiles.timesRepeated_eq (elements : List Json) :
    (Node.compile raw).timesRepeated elements =
      if Json.hasDuplicate elements = true then 1 else 0 := by
  obtain ⟨_, _, parts⟩ := compiles_iff.1 compiled
  have unique : s.rules.uniqueItems = true := parts.rules.uniqueItems.eq_true_iff.2 asked
  rw [Node.timesRepeated, compiled.keywordMessages_eq, count_messages_array unique]

theorem Compiles.timesRepeated_eq_ite_valueCount {elements : List Json}
    (sorted : ∀ e ∈ elements, e.Sorted) :
    (Node.compile raw).timesRepeated elements =
      if Json.valueCount elements < elements.length then 1 else 0 := by
  rw [compiled.timesRepeated_eq asked]
  refine if_congr ?_ rfl rfl
  rw [Json.valueCount_lt_length_iff, Json.hasDuplicate_iff sorted]

end Unique

/-- `uniqueItems` counts values. A node tells once that an element is repeated, there and only there
where an array has fewer values than elements, and a walk tells of it as often as the node does. The
order of the elements does not matter, equal elements are as good as each other, and with further
elements the array is still told of. -/
theorem timesRepeated_of_uniqueItems {raw : Json} {s : Schema}
    (found : (Node.compile raw).schema? = some s)
    (asked : raw.member? "uniqueItems" = some (.bool true)) {elements : List Json}
    (sorted : ∀ e ∈ elements, e.Sorted) :
    (∀ a ∈ elements, ∀ b ∈ elements, a.equals b = true ↔ a.meaning = b.meaning) ∧
      (Node.compile raw).timesRepeated elements =
        (if Json.valueCount elements < elements.length then 1 else 0) ∧
      (∀ o p, Enters o [] s (.array elements) p →
        (s.visit o [] (.array elements) p).count ⟨.keyword, p, repeatedText⟩ =
          (Node.compile raw).timesRepeated elements) ∧
      (∀ others, others.Perm elements →
        (Node.compile raw).timesRepeated others = (Node.compile raw).timesRepeated elements) ∧
      ∀ others, (∀ e ∈ others, e.Sorted) →
        (List.Forall₂ (fun a b => a.equals b = true) elements others →
          (Node.compile raw).timesRepeated others = (Node.compile raw).timesRepeated elements) ∧
        (elements.Sublist others → (Node.compile raw).timesRepeated elements = 1 →
          (Node.compile raw).timesRepeated others = 1) := by
  have compiled := compiles_of_schema? found
  refine ⟨fun a member b member' => ?_, compiled.timesRepeated_eq_ite_valueCount asked sorted,
    fun o p enters => ?_, fun others perm => ?_, fun others sorted' => ⟨fun equal => ?_, ?_⟩⟩
  · exact Json.equals_iff_meaning_eq (sorted a member) (sorted b member')
  · rw [enters.count_visit, Node.timesRepeated, compiled.keywordMessages_eq]
  · rw [compiled.timesRepeated_eq asked, compiled.timesRepeated_eq asked,
      Json.hasDuplicate_perm sorted perm]
  · rw [compiled.timesRepeated_eq asked, compiled.timesRepeated_eq asked,
      Json.hasDuplicate_eq_of_equals sorted sorted' equal]
  · intro more told
    rw [compiled.timesRepeated_eq asked] at told ⊢
    have duplicate : Json.hasDuplicate elements = true := by
      by_contra distinct
      rw [if_neg distinct] at told
      exact Nat.zero_ne_one told
    rw [if_pos (Json.hasDuplicate_of_sublist sorted' more duplicate)]

end Schema

end

namespace Schema

def uniqueSchema : Json := .object [("uniqueItems", .bool true)]

def eightyTwice : List Json := [
  .number (.integer 80 (by decide)), .null,
  .number (.float ⟨false, 5 <<< 50, 1028, by decide, by decide, .inr (by decide)⟩)]

theorem timesRepeated_of_uniqueItems_eighty :
    (∀ e ∈ eightyTwice, e.Sorted) ∧ Json.valueCount eightyTwice < eightyTwice.length ∧
      (Node.compile uniqueSchema).timesRepeated eightyTwice = 1 ∧
      (Node.compile uniqueSchema).timesRepeated eightyTwice.reverse = 1 ∧
      (Node.compile uniqueSchema).timesRepeated (.string "between" :: eightyTwice) = 1 ∧
      ∃ s, (Node.compile uniqueSchema).schema? = some s ∧
        Enters .default [] s (.array eightyTwice) .root ∧
        (s.visit .default [] (.array eightyTwice) .root).count ⟨.keyword, .root, repeatedText⟩ = 1 := by
  have sorted : ∀ e ∈ eightyTwice, e.Sorted := by decide
  have sorted' : ∀ e ∈ Json.string "between" :: eightyTwice, e.Sorted := by decide
  have once : (Node.compile uniqueSchema).timesRepeated eightyTwice = 1 := by decide +kernel
  obtain ⟨s, found, enters⟩ : ∃ s, (Node.compile uniqueSchema).schema? = some s ∧
      Enters .default [] s (.array eightyTwice) .root := ⟨_, rfl, rfl, by decide, rfl, rfl⟩
  obtain ⟨_, counted, walked, permuted, others⟩ := timesRepeated_of_uniqueItems found rfl sorted
  refine ⟨sorted, ?_, once, ?_, ?_, s, found, enters, ?_⟩
  · by_contra distinct
    rw [once, if_neg distinct] at counted
    cases counted
  · rw [permuted _ (List.reverse_perm eightyTwice), once]
  · exact (others _ sorted').2 (List.sublist_cons_self ..) once
  · rw [walked _ _ enters, once]

end Schema

end JsonSchema
