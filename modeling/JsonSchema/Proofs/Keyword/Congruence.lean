import JsonSchema.Keyword.Check
import JsonSchema.Proofs.Equality
import JsonSchema.Proofs.Number.Rounding

set_option autoImplicit false

namespace JsonSchema

open Keyword

theorem length_messageIf (condition : Bool) (message other : String) :
    (messageIf condition message).length = (messageIf condition other).length := by
  cases condition <;> rfl

namespace ValueRules

variable {x y : Binary64} (same : x.units = y.units) (shown other : String)
include same

theorem length_minimumMessages (bound : Option Bound) :
    (minimumMessages shown x bound).length = (minimumMessages other y bound).length := by
  cases bound with
  | none => rfl
  | some b =>
    simp only [minimumMessages, same]
    split
    · rfl
    · apply length_messageIf

theorem length_maximumMessages (bound : Option Bound) :
    (maximumMessages shown x bound).length = (maximumMessages other y bound).length := by
  cases bound with
  | none => rfl
  | some b =>
    simp only [maximumMessages, same]
    split
    · rfl
    · apply length_messageIf

end ValueRules

variable [PatternEngine]

open ValueRules in
theorem ValueRules.length_numberMessages {r : ValueRules} (plain : r.divisor = none) {m n : Number}
    (same : m.sameValue n = true) : (r.numberMessages m).length = (r.numberMessages n).length := by
  have units := Number.units_toBinary64_congr same
  simp only [numberMessages, plain, divisorMessages, List.append_nil, List.length_append,
    length_minimumMessages units m.write n.write, length_maximumMessages units m.write n.write]

namespace Schema

variable (s : Schema)

theorem tupleMessages_eq_of_length {as bs : List Json} (length : as.length = bs.length) :
    s.tupleMessages as = s.tupleMessages bs := by
  simp only [tupleMessages, length]

section Keys

variable {as bs : Members} (keys : as.map Prod.fst = bs.map Prod.fst)
include keys

theorem requiredMessages_eq_of_keys : s.requiredMessages as = s.requiredMessages bs := by
  have missing (name : String) : (as.lookup name).isNone = (bs.lookup name).isNone := by
    rw [← Option.not_isSome, ← Option.not_isSome, Bool.not_inj_iff, Bool.eq_iff_iff,
      isSome_lookup_iff, isSome_lookup_iff, keys]
  simp only [requiredMessages, missing]

theorem additionalMessages_eq_of_keys : s.additionalMessages as = s.additionalMessages bs := by
  have told (members : Members) :
      (members.filter fun m => (s.properties.lookup m.1).isNone).map
          (fun m => "additional property " ++ m.1 ++ " is not allowed") =
        ((members.map Prod.fst).filter fun name => (s.properties.lookup name).isNone).map
          fun name => "additional property " ++ name ++ " is not allowed" := by
    rw [List.filter_map, List.map_map]
    rfl
  unfold additionalMessages
  cases s.additionalProperties with
  | forbidden =>
    have forbids := told as
    rw [keys, ← told bs] at forbids
    exact forbids
  | _ => rfl

end Keys

theorem length_messages_of_equals (plain : s.rules.divisor = none) {a b : Json}
    (sorted : a.Sorted) (sorted' : b.Sorted) (same : a.equals b = true) :
    (s.messages a).length = (s.messages b).length := by
  cases Json.equals_iff_alike.1 same with
  | null | bool | string => rfl
  | number equal => exact ValueRules.length_numberMessages plain equal
  | @array as bs each =>
    have duplicate : Json.hasDuplicate as = Json.hasDuplicate bs := by
      apply Json.hasDuplicate_eq_of_equals _ _ each
      · intro a member
        obtain ⟨step, place⟩ := Json.exists_mem_places_array member
        exact sorted.inside place
      · intro b member
        obtain ⟨step, place⟩ := Json.exists_mem_places_array member
        exact sorted'.inside place
    simp only [messages, ValueRules.arrayMessages, ValueRules.uniqueMessages, duplicate,
      each.length_eq, s.tupleMessages_eq_of_length each.length_eq]
  | object =>
    have keys := ((Json.equals_object_iff sorted sorted').1 same).keys_eq
    rw [messages, messages, s.requiredMessages_eq_of_keys keys,
      s.additionalMessages_eq_of_keys keys]

end Schema

end JsonSchema
