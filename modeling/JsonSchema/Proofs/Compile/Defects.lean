import JsonSchema.Proofs.Compile.Elements
import JsonSchema.Proofs.Compile.Fragments
import JsonSchema.Proofs.Ordered

set_option autoImplicit false

namespace JsonSchema

open Schema

-- In a row in the order of its keys the first one is the one with the smallest key.
theorem first_iff_least {α : Type} {defect : α → SchemaError → Prop} {row : List (String × α)}
    {cause : SchemaError}
    (increasing : (row.map Prod.fst).Pairwise (· < ·)) :
    First (fun m => defect m.2) row cause ↔ ∃ name a, (name, a) ∈ row ∧ defect a cause ∧
      ∀ other b, (other, b) ∈ row → other < name → ∀ cause, ¬defect b cause := by
  induction row with
  | nil => simp [not_first_nil]
  | cons head rest ih =>
    obtain ⟨key, a⟩ := head
    obtain ⟨smaller, tail⟩ := List.pairwise_cons.1 increasing
    have behind {name : String} {b : α} (later : (name, b) ∈ rest) : key < name :=
      smaller name (List.mem_map_of_mem later)
    rw [first_cons_iff, ih tail]
    constructor
    · intro first
      rcases first with bad | ⟨sound, name, b, later, bad, before⟩
      · refine ⟨key, a, List.mem_cons_self, bad, fun other c listed less => ?_⟩
        rcases List.mem_cons.1 listed with same | later
        · cases same
          exact absurd less (String.lt_irrefl _)
        · exact absurd (String.lt_trans less (behind later)) (String.lt_irrefl _)
      · refine ⟨name, b, List.mem_cons_of_mem _ later, bad, fun other c listed less => ?_⟩
        rcases List.mem_cons.1 listed with same | earlier
        · cases same
          exact sound
        · exact before other c earlier less
    · intro least
      obtain ⟨name, b, listed, bad, before⟩ := least
      rcases List.mem_cons.1 listed with same | later
      · cases same
        exact .inl bad
      · refine .inr ⟨before key a List.mem_cons_self (behind later), name, b, later, bad, ?_⟩
        exact fun other c listed less => before other c (List.mem_cons_of_mem _ listed) less

variable [PatternEngine]

abbrev Schema.Refused (raw : Json) (cause : SchemaError) : Prop := compile raw = .error cause

inductive Entry where
  | number (keyword : String)
  | divisor
  | flag (keyword : String)
  | count (keyword : String)
  | pattern
  | items
  | additional (keyword : String)
  | properties

namespace Entry

def keyword : Entry → String
  | number keyword => keyword
  | divisor => "divisibleBy"
  | flag keyword => keyword
  | count keyword => keyword
  | pattern => "pattern"
  | items => "items"
  | additional keyword => keyword
  | properties => "properties"

def Defect : Entry → Json → SchemaError → Prop
  | number keyword, v, cause => (∀ n, v ≠ .number n) ∧ cause = .badKeyword keyword "a number"
  | divisor, v, cause =>
    (∀ n, v ≠ .number n) ∧ cause = .badKeyword "divisibleBy" "a number" ∨
      ∃ n, v = .number n ∧ n.units ≤ 0 ∧
        cause = .badKeyword "divisibleBy" "a number greater than zero"
  | flag keyword, v, cause => (∀ b, v ≠ .bool b) ∧ cause = .badKeyword keyword "a boolean"
  | count keyword, v, cause =>
    (∀ count, ¬Keyword.IsCount v count) ∧ cause = .badKeyword keyword "a non-negative integer"
  | pattern, v, cause =>
    (∀ source, v ≠ .string source) ∧ cause = .badKeyword "pattern" "a string" ∨
      ∃ source reason, v = .string source ∧ Pattern.compile source = .error reason ∧
        cause = .badPattern source reason
  | items, v, cause =>
    v.isObject = false ∧ (∀ elements, v ≠ .array elements) ∧
        cause = .badKeyword "items" "a schema or an array of schemas" ∨
      v.isObject = true ∧ Refused v cause ∨
      ∃ elements, v = .array elements ∧ First Refused elements cause
  | additional keyword, v, cause =>
    v.isObject = false ∧ (∀ b, v ≠ .bool b) ∧ cause = .badKeyword keyword "a boolean or a schema" ∨
      v.isObject = true ∧ Refused v cause
  | properties, v, cause =>
    v.isObject = false ∧ cause = .badKeyword "properties" "an object of schemas" ∨
      ∃ members name sub, v = .object members ∧ (name, sub) ∈ members ∧ Refused sub cause ∧
        ∀ other sub', (other, sub') ∈ members → other < name → ∃ s, Compiles sub' s

end Entry

def Json.DefectIn (raw : Json) (entry : Entry) (cause : SchemaError) : Prop :=
  ∃ v, raw.member? entry.keyword = some v ∧ entry.Defect v cause

def Json.SoundIn (raw : Json) (entry : Entry) : Prop := ∀ cause, ¬raw.DefectIn entry cause

section Readers

open Keyword

variable {members : Members} {cause : SchemaError}

theorem defectIn_object_iff (entry : Entry) : (Json.object members).DefectIn entry cause ↔
    ∃ v, members.lookup entry.keyword = some v ∧ entry.Defect v cause := Iff.rfl

theorem soundIn_of_absent {raw : Json} {entry : Entry}
    (absent : raw.member? entry.keyword = none) : raw.SoundIn entry := by
  intro cause bad
  obtain ⟨v, declared, _⟩ := bad
  cases absent.symm.trans declared

theorem number?_eq_error_iff {keyword : String} :
    number? members keyword = .error cause ↔
      (Json.object members).DefectIn (.number keyword) cause := by
  rw [defectIn_object_iff, number?]
  simp only [Entry.keyword, Entry.Defect]
  cases members.lookup keyword with
  | none => simp
  | some v => cases v <;> simp [eq_comm]

theorem divisor?_eq_error_iff :
    divisor? members "divisibleBy" = .error cause ↔
      (Json.object members).DefectIn .divisor cause := by
  rw [defectIn_object_iff, divisor?, number?]
  simp only [Entry.keyword, Entry.Defect]
  cases members.lookup "divisibleBy" with
  | none => simp [bind, Except.bind, pure, Except.pure]
  | some v =>
    cases v with
    | number n =>
      have sign : n.toBinary64.units ≤ 0 ↔ n.units ≤ 0 := by
        rw [← Int.not_lt, ← Int.not_lt, Number.units_toBinary64_pos_iff]
      by_cases nonpositive : n.units ≤ 0
      · simp [bind, Except.bind, throw, throwThe, MonadExceptOf.throw, sign, nonpositive, eq_comm]
      · simp [bind, Except.bind, pure, Except.pure, sign, nonpositive]
    | _ => simp [bind, Except.bind, eq_comm]

theorem flag_eq_error_iff {keyword : String} :
    flag members keyword = .error cause ↔
      (Json.object members).DefectIn (.flag keyword) cause := by
  rw [defectIn_object_iff, flag]
  simp only [Entry.keyword, Entry.Defect]
  cases members.lookup keyword with
  | none => simp
  | some v => cases v <;> simp [eq_comm]

theorem count?_eq_error_iff {keyword : String} :
    count? members keyword = .error cause ↔
      (Json.object members).DefectIn (.count keyword) cause := by
  rw [defectIn_object_iff, count?]
  simp only [Entry.keyword, Entry.Defect]
  cases members.lookup keyword with
  | none => simp
  | some v =>
    cases v with
    | number n =>
      cases n with
      | float x => simp [Number.count?, IsCount, eq_comm]
      | integer value fits =>
        cases value with
        | ofNat count =>
          have counted : IsCount (.number (.integer (.ofNat count) fits)) count := ⟨fits, rfl⟩
          simp only [Number.count?, Int.toNat?, reduceCtorEq, Option.some.injEq, exists_eq_left',
            false_iff, not_and]
          exact fun uncounted => absurd counted (uncounted count)
        | negSucc below => simp [Number.count?, Int.toNat?, IsCount, eq_comm]
    | _ => simp [IsCount, eq_comm]

theorem pattern?_eq_error_iff :
    pattern? members "pattern" = .error cause ↔ (Json.object members).DefectIn .pattern cause := by
  rw [defectIn_object_iff, pattern?]
  simp only [Entry.keyword, Entry.Defect]
  cases members.lookup "pattern" with
  | none => simp
  | some v =>
    cases v with
    | string source => cases compiled : Pattern.compile source <;> simp [compiled, eq_comm]
    | _ => simp [eq_comm]

-- What is asked of a value of some keyword can be told once the keyword is looked up.
theorem itemsOf_eq_error_iff (v : Json) :
    itemsOf "items" v (compile v) (compileElements v) = .error cause ↔ Entry.items.Defect v cause := by
  simp only [Entry.Defect]
  cases v with
  | array elements =>
    have stops : StopsAt Refused elements (compileAll elements) := by
      rw [compileAll_eq]
      exact stopsAt_mapM fun e _ cause => Iff.rfl
    rw [itemsOf, map_eq_error_iff, compileElements, stops cause]
    simp [Json.isObject]
  | object inner =>
    rw [itemsOf, map_eq_error_iff]
    simp [Json.isObject]
  | _ => simp [itemsOf, Json.isObject, eq_comm]

theorem itemsIn_eq_error_iff :
    itemsIn "items" members = .error cause ↔ (Json.object members).DefectIn .items cause := by
  rw [defectIn_object_iff, itemsIn_eq]
  simp only [Entry.keyword]
  cases members.lookup "items" with
  | none => simp
  | some v => simp [itemsOf_eq_error_iff]

theorem additionalIn_eq_error_iff {keyword : String} :
    additionalIn keyword members = .error cause ↔
      (Json.object members).DefectIn (.additional keyword) cause := by
  rw [defectIn_object_iff, additionalIn_eq]
  simp only [Entry.keyword, Entry.Defect]
  cases members.lookup keyword with
  | none => simp
  | some v =>
    cases v with
    | bool b => cases b <;> simp [additionalOf, Json.isObject]
    | object inner => simp [additionalOf, map_eq_error_iff, Json.isObject]
    | _ => simp [additionalOf, Json.isObject, @eq_comm _ cause]

theorem stopsAt_compileMembers (members : Members) :
    StopsAt (fun m => Refused m.2) members (compileMembers members) := by
  induction members with
  | nil => exact stopsAt_ok []
  | cons head rest ih => exact .cons (fun cause => Iff.rfl) fun s => ih.bind_pure

theorem not_refused_iff (raw : Json) : (∀ cause, ¬Refused raw cause) ↔ ∃ s, Compiles raw s := by
  cases outcome : compile raw with
  | ok s => simp [Refused, Compiles, outcome]
  | error e => simp [Refused, Compiles, outcome]

theorem propertiesIn_eq_error_iff (sorted : (Json.object members).Sorted) :
    propertiesIn "properties" members = .error cause ↔
      (Json.object members).DefectIn .properties cause := by
  rw [defectIn_object_iff, propertiesIn_eq]
  simp only [Entry.keyword, Entry.Defect]
  cases found : members.lookup "properties" with
  | none => simp
  | some v =>
    cases v with
    | object inner =>
      have inside : (Json.object inner).Sorted :=
        sorted.inside ((Json.mem_places_object ..).2 ⟨_, mem_of_lookup found, rfl⟩)
      have compiled : compileProperties "properties" (.object inner) = compileMembers inner := rfl
      simp only [compiled, stopsAt_compileMembers inner cause,
        first_iff_least (inside.ordered inner rfl)]
      simp [Json.isObject, not_refused_iff]
    | _ => simp [compileProperties, Json.isObject, @eq_comm _ cause]

end Readers

end JsonSchema
