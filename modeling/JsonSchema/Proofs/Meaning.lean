import JsonSchema.Proofs.Equality
import JsonSchema.Proofs.Number.Value

set_option autoImplicit false

namespace JsonSchema

inductive Meaning where
  | null
  | bool (flag : Bool)
  | number (value : ℚ)
  | string (text : String)
  | array (elements : List Meaning)
  | object (member : String → Option Meaning)

namespace Json

mutual

def meaning : Json → Meaning
  | .null => .null
  | .bool flag => .bool flag
  | .number n => .number n.value
  | .string text => .string text
  | .array elements => .array (meaningOfElements elements)
  | .object members => .object (meaningOfMembers members)
termination_by structural v => v

def meaningOfElements : List Json → List Meaning
  | [] => []
  | v :: rest => v.meaning :: meaningOfElements rest
termination_by structural elements => elements

def meaningOfMembers : List (String × Json) → String → Option Meaning
  | [], _ => none
  | (key, v) :: rest, name => if name = key then some v.meaning else meaningOfMembers rest name
termination_by structural members => members

end

theorem meaningOfElements_eq (elements : List Json) :
    meaningOfElements elements = elements.map meaning := by
  induction elements with
  | nil => rfl
  | cons v rest ih => rw [meaningOfElements, ih, List.map_cons]

theorem meaningOfMembers_eq (members : List (String × Json)) (name : String) :
    meaningOfMembers members name = (members.lookup name).map meaning := by
  induction members with
  | nil => rfl
  | cons member rest ih =>
    obtain ⟨key, v⟩ := member
    rw [meaningOfMembers, List.lookup_cons]
    by_cases same : name = key
    · rw [if_pos same, beq_iff_eq.2 same, Option.map_some]
    · rw [if_neg same, beq_eq_false_iff_ne.2 same, ih]

theorem equals_array_iff (as bs : List Json) :
    (Json.array as).equals (.array bs) = true ↔
      List.Forall₂ (fun a b => a.equals b = true) as bs := by
  rw [equals_iff_alike]
  constructor
  · intro alike
    cases alike with
    | array each => exact each
  · exact .array

theorem meaning_array_eq_iff (as bs : List Json) :
    (Json.array as).meaning = (Json.array bs).meaning ↔
      List.Forall₂ (fun a b => a.meaning = b.meaning) as bs := by
  rw [meaning, meaning, Meaning.array.injEq, meaningOfElements_eq, meaningOfElements_eq,
    ← List.forall₂_eq_eq_eq, List.forall₂_map_left_iff, List.forall₂_map_right_iff]

theorem meaning_object_eq_iff {as bs : List (String × Json)} (sorted : (Json.object as).Sorted)
    (sorted' : (Json.object bs).Sorted) :
    (Json.object as).meaning = (Json.object bs).meaning ↔
      AlignedBy (fun a b => a.meaning = b.meaning) as bs := by
  have found (a b : Option Json) :
      a.map meaning = b.map meaning ↔ Option.Rel (fun a b => a.meaning = b.meaning) a b := by
    cases a <;> cases b <;> simp
  rw [meaning, meaning, Meaning.object.injEq, funext_iff,
    alignedBy_iff_rel_lookup (sorted.ordered as rfl) (sorted'.ordered bs rfl)]
  exact forall_congr' fun name => by rw [meaningOfMembers_eq, meaningOfMembers_eq, found]

theorem equals_iff_meaning_eq {a b : Json} (sorted : a.Sorted) (sorted' : b.Sorted) :
    a.equals b = true ↔ a.meaning = b.meaning := by
  induction a using placeInduction generalizing b with
  | step a ih =>
    cases a with
    | null | bool | string => cases b <;> simp [equals, meaning]
    | number m =>
      cases b with
      | number n =>
        rw [equals, meaning, meaning, Meaning.number.injEq]
        exact Number.sameValue_iff_value_eq m n
      | _ => simp [equals, meaning]
    | array as =>
      cases b with
      | array bs =>
        have each : ∀ x ∈ as, ∀ y ∈ bs, x.equals y = true ↔ x.meaning = y.meaning := by
          intro x member y member'
          obtain ⟨step, place⟩ := exists_mem_places_array member
          obtain ⟨step', place'⟩ := exists_mem_places_array member'
          exact ih step x place (sorted.inside place) (sorted'.inside place')
        rw [equals_array_iff, meaning_array_eq_iff]
        constructor
        · intro related
          exact forall₂_imp_of_mem related fun x member y member' => (each x member y member').1
        · intro related
          exact forall₂_imp_of_mem related fun x member y member' => (each x member y member').2
      | _ => simp [equals, meaning]
    | object as =>
      cases b with
      | object bs =>
        have each : ∀ x ∈ as, ∀ y ∈ bs, x.2.equals y.2 = true ↔ x.2.meaning = y.2.meaning := by
          intro x member y member'
          obtain ⟨step, place⟩ := exists_mem_places_object member
          obtain ⟨step', place'⟩ := exists_mem_places_object member'
          exact ih step x.2 place (sorted.inside place) (sorted'.inside place')
        rw [equals_object_iff sorted sorted', meaning_object_eq_iff sorted sorted']
        constructor
        · intro related
          exact forall₂_imp_of_mem related fun x member y member' =>
            And.imp_right (each x member y member').1
        · intro related
          exact forall₂_imp_of_mem related fun x member y member' =>
            And.imp_right (each x member y member').2
      | _ => simp [equals, meaning]

/-- Equality is equality of what two documents say, and so an equivalence. No number is rounded on
the way: two numbers are equal when they have the same value, and a number is of the kind `integer`
when its value is an integer. -/
theorem equality_of_meaning {a b c : Json} (sorted : a.Sorted) (sorted' : b.Sorted)
    (sorted'' : c.Sorted) :
    (a.equals b = true ↔ a.meaning = b.meaning) ∧
      a.equals a = true ∧
      (a.equals b = true → b.equals a = true) ∧
      (a.equals b = true → b.equals c = true → a.equals c = true) ∧
      (a.equals b = true → Kind.of a = Kind.of b) ∧
      (∀ m n : Number, (Json.number m).equals (.number n) = true ↔ m.value = n.value) ∧
      ∀ n : Number, Kind.of (.number n) = .integer ↔ ∃ i : ℤ, n.value = i := by
  refine ⟨equals_iff_meaning_eq sorted sorted', ?_, ?_, ?_, kind_eq_of_equals, ?_, ?_⟩
  · exact (equals_iff_meaning_eq sorted sorted).2 rfl
  · intro same
    rw [equals_iff_meaning_eq sorted sorted'] at same
    exact (equals_iff_meaning_eq sorted' sorted).2 same.symm
  · intro first second
    rw [equals_iff_meaning_eq sorted sorted'] at first
    rw [equals_iff_meaning_eq sorted' sorted''] at second
    exact (equals_iff_meaning_eq sorted sorted'').2 (first.trans second)
  · intro m n
    rw [equals]
    exact Number.sameValue_iff_value_eq m n
  · intro n
    rw [← Number.isIntegral_iff_value, Kind.of]
    cases n.isIntegral <;> simp

def powers : Json :=
  .object [("whole", .array [.number (.integer (2 ^ 53) (by decide)),
    .number (.integer (2 ^ 63) (by decide)), .number (.integer 0 ⟨by decide, by decide⟩)])]

def floatPowers : Json :=
  .object [("whole", .array [
    .number (.float ⟨false, 2 ^ 52, 1075, by decide, by decide, .inr (by decide)⟩),
    .number (.float ⟨false, 2 ^ 52, 1085, by decide, by decide, .inr (by decide)⟩),
    .number (.float (.zero true))])]

-- The first number is one larger, and as a binary64 number it would be the same.
def successors : Json :=
  .object [("whole", .array [.number (.integer (2 ^ 53 + 1) (by decide)),
    .number (.integer (2 ^ 63) (by decide)), .number (.integer 0 ⟨by decide, by decide⟩)])]

theorem equality_of_meaning_powers :
    powers.Sorted ∧ floatPowers.Sorted ∧ successors.Sorted ∧
      powers.meaning = floatPowers.meaning ∧ floatPowers.equals powers = true ∧
      successors.meaning ≠ floatPowers.meaning := by
  have number (n : Number) : (Json.number n).Sorted := sorted_of_places_eq_nil rfl
  have row (a b c : Number) :
      (Json.object [("whole", .array [.number a, .number b, .number c])]).Sorted := by
    refine sorted_object (List.pairwise_singleton ..) (List.forall_mem_singleton.2 ?_)
    exact sorted_array (by simp [number])
  have sorted : powers.Sorted := row _ _ _
  have sorted' : floatPowers.Sorted := row _ _ _
  have sorted'' : successors.Sorted := row _ _ _
  have equal := equality_of_meaning sorted sorted' sorted''
  have larger := equality_of_meaning sorted'' sorted' sorted
  have same : powers.equals floatPowers = true := by decide +kernel
  have different : successors.equals floatPowers = false := by decide +kernel
  refine ⟨sorted, sorted', sorted'', equal.1.1 same, equal.2.2.1 same, fun agree => ?_⟩
  rw [larger.1.2 agree] at different
  cases different

end Json

end JsonSchema
