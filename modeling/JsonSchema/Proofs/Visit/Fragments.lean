import JsonSchema.Proofs.Compile.Fragments
import JsonSchema.Proofs.Visit.Union

set_option autoImplicit false

namespace JsonSchema.Schema

open Keyword

theorem hasOnlyTypes_restrict (raw : Json) : (raw.restrict ["type", "disallow"]).HasOnlyTypes := by
  intro name type disallow
  rw [Json.member?_restrict, if_neg (by simp [type, disallow])]

section

variable [PatternEngine]

variable {raw : Json} {s : Schema} {o : Options} {v : Json} {p : Pointer}

def reportTyped (o : Options) (s : Schema) (v : Json) (p : Pointer) : List Diagnostic :=
  ownDiagnostics o [] s v p ++ if o.structural then s.inner o [] v p else []

theorem visit_eq_reportTyped (shallow : p.depth ≤ o.maxDepth)
    (allowed : s.allowed.admits (Kind.of v) = true) (typed : s.typePasses o [] v p = true) :
    s.visit o [] v p = s.reportTyped o v p := by
  rw [visit_eq, if_neg (Nat.not_lt.2 shallow), allowed, typed]
  rfl

section Groups

variable {names : List String}

-- A fragment with the types has all of them, and one without allows everything.
theorem admits_restrict (allowed : s.allowed.admits (Kind.of v) = true) :
    (s.restrict names).allowed.admits (Kind.of v) = true := by
  dsimp only [Schema.restrict]
  split
  · exact allowed
  · exact TypeSet.admits_all _

theorem typePasses_restrict (typed : s.typePasses o [] v p = true) :
    (s.restrict names).typePasses o [] v p = true := by
  unfold typePasses at typed ⊢
  dsimp only [Schema.restrict]
  split
  · exact typed
  · rw [TypeSet.admits_all, Bool.true_or]

theorem reportTyped_eq_flatMap_groups (o : Options) (s : Schema) (v : Json) (p : Pointer) :
    s.reportTyped o v p = groups.flatMap fun names => (s.restrict names).reportTyped o v p := by
  have nothing {α : Type} (l : List α) : l.flatMap (fun _ => ([] : List Diagnostic)) = [] :=
    List.flatMap_eq_nil_iff.2 fun _ _ => rfl
  cases structural : o.structural with
  | false => simp [groups, reportTyped, ownDiagnostics, Schema.restrict, structural]
  | true =>
    -- The kind of the value decides which keywords can speak at all.
    cases v with
    | null | bool =>
      simp [groups, reportTyped, ownDiagnostics, Schema.restrict, messages, inner]
    | number n =>
      simp [groups, reportTyped, ownDiagnostics, Schema.restrict, messages, inner, structural,
        ValueRules.restrict, ValueRules.numberMessages, ValueRules.minimumMessages,
        ValueRules.maximumMessages, ValueRules.divisorMessages]
    | string text =>
      simp [groups, reportTyped, ownDiagnostics, Schema.restrict, messages, inner, structural,
        ValueRules.restrict, ValueRules.stringMessages, ValueRules.minLengthMessages,
        ValueRules.maxLengthMessages, ValueRules.patternMessages]
    | array elements =>
      simp [groups, reportTyped, ownDiagnostics, Schema.restrict, messages, inner, structural,
        ValueRules.restrict, ValueRules.arrayMessages, ValueRules.minItemsMessages,
        ValueRules.maxItemsMessages, ValueRules.uniqueMessages, messageIf, tupleMessages,
        itemSchema?, nothing]
    | object members =>
      simp [groups, reportTyped, ownDiagnostics, Schema.restrict, messages, inner, structural,
        requiredMessages, additionalMessages, propertySchema?, Additional.schema?, nothing]

theorem visit_eq_flatMap_groups (shallow : p.depth ≤ o.maxDepth)
    (allowed : s.allowed.admits (Kind.of v) = true) (typed : s.typePasses o [] v p = true) :
    s.visit o [] v p = groups.flatMap fun names => (s.restrict names).visit o [] v p := by
  rw [visit_eq_reportTyped shallow allowed typed, reportTyped_eq_flatMap_groups]
  refine List.flatMap_congr fun names _ => ?_
  exact (visit_eq_reportTyped shallow (admits_restrict allowed) (typePasses_restrict typed)).symm

end Groups

theorem Compiles.visit_types_eq_nil_iff (compiled : Compiles raw s) (shallow : p.depth ≤ o.maxDepth) :
    (s.restrict ["type", "disallow"]).visit o [] v p = [] ↔
      s.allowed.admits (Kind.of v) = true ∧ s.typePasses o [] v p = true := by
  have types : ["type", "disallow"] ∈ groups := by decide
  have fragment := compiled.restrict (closed_of_mem_groups types)
  have only := hasOnlyTypes_restrict raw
  constructor
  · intro silent
    obtain ⟨_, allowed, typed, _⟩ := (visit_eq_nil_iff ..).1 silent
    exact ⟨allowed, typed⟩
  · intro passes
    obtain ⟨allowed, typed⟩ := passes
    exact (visit_eq_nil_iff ..).2 ⟨shallow, admits_restrict allowed, typePasses_restrict typed,
      fragment.ownDiagnostics_eq_nil_of_onlyTypes only v p,
      fun _ => fragment.inner_eq_nil_of_onlyTypes only v p⟩

theorem isValid_iff_groups (raw : Json) :
    (Node.compile raw).isValid = true ↔
      ∀ names ∈ groups, (Node.compile (raw.restrict names)).isValid = true := by
  simp only [isValid_compile_iff, ← wellFormed_iff]
  exact wellFormed_iff_groups

section Whole

variable (compiled : Compiles raw s)
include compiled

theorem Compiles.findings_restrict {names : List String} (listed : names ∈ groups) (v : Json) :
    findings o (raw.restrict names) v = (s.restrict names).visit o [] v .root :=
  (compiled.restrict (closed_of_mem_groups listed)).findings_eq v

theorem Compiles.findings_eq_flatMap_groups
    (typed : accepts o (raw.restrict ["type", "disallow"]) v = true) :
    findings o raw v = groups.flatMap fun names => findings o (raw.restrict names) v := by
  have types : ["type", "disallow"] ∈ groups := by decide
  have shallow : Pointer.root.depth ≤ o.maxDepth := Nat.zero_le _
  have silent : (s.restrict ["type", "disallow"]).visit o [] v .root = [] := by
    rw [← compiled.findings_restrict types]
    exact (Report.passed_iff _).1 typed
  obtain ⟨allowed, passes⟩ := (compiled.visit_types_eq_nil_iff shallow).1 silent
  rw [compiled.findings_eq, visit_eq_flatMap_groups shallow allowed passes]
  exact List.flatMap_congr fun names listed => (compiled.findings_restrict listed v).symm

theorem Compiles.accepts_iff_groups (v : Json) :
    accepts o raw v = true ↔ ∀ names ∈ groups, accepts o (raw.restrict names) v = true := by
  have silent (raw : Json) : accepts o raw v = true ↔ findings o raw v = [] := Report.passed_iff _
  constructor
  · intro accepted
    have passes := (visit_eq_nil_iff ..).1 ((compiled.accepts_iff v).1 accepted)
    have typed : accepts o (raw.restrict ["type", "disallow"]) v = true := by
      rw [silent, compiled.findings_restrict (by decide),
        compiled.visit_types_eq_nil_iff (Nat.zero_le _)]
      exact ⟨passes.2.1, passes.2.2.1⟩
    rw [silent, compiled.findings_eq_flatMap_groups typed, List.flatMap_eq_nil_iff] at accepted
    exact fun names listed => (silent _).2 (accepted names listed)
  · intro fragments
    have typed := fragments ["type", "disallow"] (by decide)
    rw [silent, compiled.findings_eq_flatMap_groups typed, List.flatMap_eq_nil_iff]
    exact fun names listed => (silent _).1 (fragments names listed)

end Whole

/-- A schema is the conjunction of its keyword groups. It is valid exactly where all its fragments
are, and it passes what all of them pass. Where the fragment of the types passes, the report of the
schema is the reports of the fragments one after the other. -/
theorem findings_of_groups (raw : Json) :
    ((Node.compile raw).isValid = true ↔
        ∀ names ∈ groups, (Node.compile (raw.restrict names)).isValid = true) ∧
      ((Node.compile raw).isValid = true → ∀ (o : Options) (v : Json),
        (accepts o raw v = true ↔ ∀ names ∈ groups, accepts o (raw.restrict names) v = true) ∧
        (accepts o (raw.restrict ["type", "disallow"]) v = true →
          findings o raw v = groups.flatMap fun names => findings o (raw.restrict names) v)) := by
  refine ⟨isValid_iff_groups raw, fun valid o v => ?_⟩
  obtain ⟨s, compiled⟩ := (isValid_compile_iff raw).1 valid
  exact ⟨compiled.accepts_iff_groups v, compiled.findings_eq_flatMap_groups⟩

end

def headedSchema : Json :=
  .object [
    ("additionalItems", .object [
      ("divisibleBy", .number (.integer 20 (by decide))),
      ("exclusiveMaximum", .bool true),
      ("maximum", .number (.integer 40 (by decide))),
      ("type", .string "number")]),
    ("items", .array [.object [("type", .string "string")]]),
    ("minItems", .number (.integer 8 (by decide))),
    ("type", .array [.string "array", .object [
      ("enum", .array [.string "none", .string "all"])]]),
    ("uniqueItems", .bool true)]

def headedRow : Json :=
  .array [.null, .number (.integer 41 (by decide)), .number (.integer 41 (by decide))]

set_option maxRecDepth 4000 in
theorem findings_of_groups_headed :
    (Node.compile headedSchema).isValid = true ∧
      accepts .default (headedSchema.restrict ["type", "disallow"]) headedRow = true ∧
      findings .default headedSchema headedRow =
        groups.flatMap (fun names => findings .default (headedSchema.restrict names) headedRow) ∧
      (findings .default headedSchema headedRow).length = 7 ∧
      accepts .default headedSchema (.string "all") = true := by
  have valid : (Node.compile headedSchema).isValid = true := rfl
  have whole := (findings_of_groups headedSchema).2 valid .default
  have typed : accepts .default (headedSchema.restrict ["type", "disallow"]) headedRow = true := by
    decide +kernel
  refine ⟨valid, typed, (whole headedRow).2 typed, by decide +kernel, ?_⟩
  apply (whole (.string "all")).1.2
  decide +kernel

end JsonSchema.Schema
