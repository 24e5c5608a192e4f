import JsonSchema.Json.Equal
import JsonSchema.Kind
import JsonSchema.Proofs.Locations
import JsonSchema.Proofs.Rows

set_option autoImplicit false

namespace JsonSchema.Json

inductive Alike : Json → Json → Prop where
  | null : Alike .null .null
  | bool (flag : Bool) : Alike (.bool flag) (.bool flag)
  | number {m n : Number} (same : m.sameValue n = true) : Alike (.number m) (.number n)
  | string (text : String) : Alike (.string text) (.string text)
  | array {as bs : List Json} (each : List.Forall₂ (fun a b => a.equals b = true) as bs) :
      Alike (.array as) (.array bs)
  | object {as bs : List (String × Json)} (length : as.length = bs.length)
      (each : ∀ key a, (key, a) ∈ as → ∃ b, bs.lookup key = some b ∧ a.equals b = true) :
      Alike (.object as) (.object bs)

theorem equalElements_iff {as bs : List Json} (length : as.length = bs.length) :
    equalElements as bs = true ↔ List.Forall₂ (fun a b => a.equals b = true) as bs := by
  induction as generalizing bs with
  | nil =>
    rw [List.eq_nil_of_length_eq_zero length.symm]
    exact ⟨fun _ => .nil, fun _ => rfl⟩
  | cons a rest ih =>
    cases bs with
    | nil => cases length
    | cons b rest' =>
      rw [equalElements, Bool.and_eq_true, List.forall₂_cons, ih (Nat.succ.inj length)]

theorem equalMembers_iff (as bs : List (String × Json)) :
    equalMembers as bs = true ↔
      ∀ key a, (key, a) ∈ as → ∃ b, bs.lookup key = some b ∧ a.equals b = true := by
  induction as with
  | nil => simp [equalMembers]
  | cons head rest ih =>
    obtain ⟨key, a⟩ := head
    rw [equalMembers, Bool.and_eq_true, ih]
    constructor
    · intro same name b member
      obtain ⟨here, others⟩ := same
      rcases List.mem_cons.1 member with first | later
      · cases first
        cases found : bs.lookup key with
        | none =>
          rw [found] at here
          cases here
        | some c =>
          rw [found] at here
          exact ⟨c, rfl, here⟩
      · exact others name b later
    · intro each
      refine ⟨?_, fun name b later => each name b (List.mem_cons_of_mem _ later)⟩
      obtain ⟨c, found, same⟩ := each key a List.mem_cons_self
      rw [found]
      exact same

theorem equals_iff_alike {a b : Json} : a.equals b = true ↔ Alike a b := by
  constructor
  · intro same
    cases a <;> cases b <;>
      simp only [equals, Bool.and_eq_true, beq_iff_eq, Bool.false_eq_true] at same
    · exact .null
    · subst same
      exact .bool _
    · exact .number same
    · subst same
      exact .string _
    · exact .array ((equalElements_iff same.1).1 same.2)
    · exact .object same.1 ((equalMembers_iff ..).1 same.2)
  · intro alike
    cases alike with
    | null => rfl
    | bool | string => simp [equals]
    | number same => exact same
    | array each =>
      rw [equals, Bool.and_eq_true, beq_iff_eq, equalElements_iff each.length_eq]
      exact ⟨each.length_eq, each⟩
    | object length each =>
      rw [equals, Bool.and_eq_true, beq_iff_eq, equalMembers_iff]
      exact ⟨length, each⟩

theorem kind_eq_of_equals {a b : Json} (same : a.equals b = true) : Kind.of a = Kind.of b := by
  cases equals_iff_alike.1 same with
  | number same => rw [Kind.of, Kind.of, Number.isIntegral_eq_of_sameValue same]
  | _ => rfl

theorem equals_trans {a b c : Json} (first : a.equals b = true) (second : b.equals c = true) :
    a.equals c = true := by
  induction a using placeInduction generalizing b c with
  | step a ih =>
    rw [equals_iff_alike]
    cases equals_iff_alike.1 first with
    | null | bool | string => exact equals_iff_alike.1 second
    | number same =>
      cases equals_iff_alike.1 second with
      | number same' =>
        rw [Number.sameValue_iff] at same same'
        exact .number ((Number.sameValue_iff ..).2 (same.trans same'))
    | array each =>
      cases equals_iff_alike.1 second with
      | array each' =>
        refine .array (forall₂_imp_of_mem (forall₂_comp each each') ?_)
        intro x member y _ between
        obtain ⟨step, place⟩ := exists_mem_places_array member
        obtain ⟨z, left, right⟩ := between
        exact ih step x place left right
    | object length each =>
      cases equals_iff_alike.1 second with
      | object length' each' =>
        refine .object (length.trans length') fun key x member => ?_
        obtain ⟨step, place⟩ := exists_mem_places_object member
        obtain ⟨y, found, left⟩ := each key x member
        obtain ⟨z, found', right⟩ := each' key y (mem_of_lookup found)
        exact ⟨z, found', ih step x place left right⟩

section Sorted

variable {as bs : List (String × Json)}

theorem Sorted.nodup_keys (sorted : (Json.object as).Sorted) : (as.map Prod.fst).Nodup :=
  (sorted.ordered as rfl).imp fun before => String.ne_of_lt before

theorem equals_object_iff (sorted : (Json.object as).Sorted) (sorted' : (Json.object bs).Sorted) :
    (Json.object as).equals (.object bs) = true ↔
      AlignedBy (fun a b => a.equals b = true) as bs := by
  rw [equals_iff_alike]
  constructor
  · intro alike
    cases alike with
    | object length each =>
      apply alignedBy_of_lookup _ sorted.nodup_keys each
      apply keys_eq_of_subset (sorted.ordered as rfl) (sorted'.ordered bs rfl) length
      intro key listed
      obtain ⟨m, member, rfl⟩ := List.mem_map.1 listed
      obtain ⟨b, found, _⟩ := each m.1 m.2 member
      apply (isSome_lookup_iff bs m.1).1
      rw [found, Option.isSome_some]
  · intro aligned
    refine .object aligned.length_eq fun key a member => ?_
    obtain ⟨b, partner, same⟩ := aligned.mem_left member
    exact ⟨b, lookup_eq_some_of_mem sorted'.nodup_keys partner, same⟩

theorem equals_symm {a b : Json} (sorted : a.Sorted) (sorted' : b.Sorted)
    (same : a.equals b = true) : b.equals a = true := by
  induction a using placeInduction generalizing b with
  | step a ih =>
    cases equals_iff_alike.1 same with
    | null | bool | string => exact same
    | number equal =>
      rw [Number.sameValue_iff] at equal
      exact (Number.sameValue_iff ..).2 equal.symm
    | array each =>
      refine equals_iff_alike.2 (.array (forall₂_imp_of_mem each ?_).flip)
      intro x member y member' equal
      obtain ⟨step, place⟩ := exists_mem_places_array member
      obtain ⟨step', place'⟩ := exists_mem_places_array member'
      exact ih step x place (sorted.inside place) (sorted'.inside place') equal
    | object length each =>
      rw [equals_object_iff sorted sorted'] at same
      rw [equals_object_iff sorted' sorted]
      refine (forall₂_imp_of_mem same ?_).flip
      intro x member y member' related
      obtain ⟨step, place⟩ := exists_mem_places_object member
      obtain ⟨step', place'⟩ := exists_mem_places_object member'
      have flipped := ih step x.2 place (sorted.inside place) (sorted'.inside place') related.2
      exact ⟨related.1.symm, flipped⟩

end Sorted

theorem equals_right_congr {a b : Json} (sorted : a.Sorted) (sorted' : b.Sorted)
    (same : a.equals b = true) (c : Json) : c.equals a = c.equals b := by
  rw [Bool.eq_iff_iff]
  constructor
  · intro found
    exact equals_trans found same
  · intro found
    exact equals_trans found (equals_symm sorted sorted' same)

theorem equals_left_congr {a b : Json} (sorted : a.Sorted) (sorted' : b.Sorted)
    (same : a.equals b = true) (c : Json) : a.equals c = b.equals c := by
  rw [Bool.eq_iff_iff]
  constructor
  · intro found
    exact equals_trans (equals_symm sorted sorted' same) found
  · intro found
    exact equals_trans same found

theorem places_of_equals {a b : Json} (sorted : a.Sorted) (sorted' : b.Sorted)
    (same : a.equals b = true) :
    List.Forall₂ (fun x y => x.1 = y.1 ∧ x.2.equals y.2 = true) a.places b.places := by
  cases equals_iff_alike.1 same with
  | null | bool | number | string => exact .nil
  | array each =>
    rw [places, places, List.forall₂_map_left_iff, List.forall₂_map_right_iff]
    refine (forall₂_zipIdx each 0).imp ?_
    intro x y related
    exact ⟨congrArg Step.index related.1, related.2⟩
  | object =>
    rw [equals_object_iff sorted sorted'] at same
    rw [places, places, List.forall₂_map_left_iff, List.forall₂_map_right_iff]
    refine same.imp ?_
    intro x y related
    exact ⟨congrArg Step.key related.1, related.2⟩

theorem hasDuplicate_eq_of_equals {as bs : List Json} (sorted : ∀ a ∈ as, a.Sorted)
    (sorted' : ∀ b ∈ bs, b.Sorted) (each : List.Forall₂ (fun a b => a.equals b = true) as bs) :
    hasDuplicate as = hasDuplicate bs := by
  induction each with
  | nil => rfl
  | @cons a b _ _ head tail ih =>
    obtain ⟨first, rest⟩ := List.forall_mem_cons.1 sorted
    obtain ⟨first', rest'⟩ := List.forall_mem_cons.1 sorted'
    rw [hasDuplicate, hasDuplicate, ih rest rest']
    refine congrArg (· || _) (any_eq_of_forall₂ (forall₂_imp_of_mem tail ?_) fun _ _ => id)
    intro x member y member' equal
    exact (equals_left_congr first first' head x).trans
      (equals_right_congr (rest x member) (rest' y member') equal b)

end JsonSchema.Json
