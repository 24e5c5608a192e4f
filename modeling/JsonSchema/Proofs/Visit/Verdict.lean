import JsonSchema.Proofs.Compile.Tree
import JsonSchema.Proofs.Keyword.Fits
import JsonSchema.Proofs.Visit.Places
import JsonSchema.Validator

set_option autoImplicit false

namespace JsonSchema

section

variable [PatternEngine]

def InEnumeration (schema v : Json) : Prop :=
  ∀ values, schema.member? "enum" = some (.array values) → ∃ value ∈ values, value.equals v = true

-- The alternatives are asked about the value itself, all other nested schemas about a place below.
def Sat (schema v : Json) : Prop :=
  schema.allowedKinds.Admits (Kind.of v) ∧
    (schema.grantedKinds.Admits (Kind.of v) ∨
      ∃ place alternative, ∃ _ : Subschema schema (.alternative place) alternative,
        Sat alternative v) ∧
    InEnumeration schema v ∧
    Fits schema v ∧
    ∀ step w, (step, w) ∈ v.places → ∀ sub, schema.schemaAt? step = some sub → Sat sub w
termination_by sizeOf schema
decreasing_by
  · exact Subschema.sizeOf_lt ‹_›
  · exact Json.sizeOf_schemaAt?_lt ‹_›

namespace Schema

variable {raw : Json} {s : Schema} {o : Options}

theorem Compiles.enumeration_iff (compiled : Compiles raw s) (v : Json) :
    (∀ values, s.enumeration = some values → ∃ value ∈ values, value.equals v = true) ↔
      InEnumeration raw v := by
  obtain ⟨declared, disallowed, parts⟩ := compiles_iff.1 compiled
  have read := parts.enumeration
  unfold InEnumeration
  generalize raw.member? "enum" = value, s.enumeration = enumeration at read
  cases read with
  | none => simp
  | some formed =>
    obtain rfl := formed
    simp

theorem ownDiagnostics_eq_nil_iff (structural : o.structural = true) (s : Schema) (v : Json)
    (p : Pointer) :
    ownDiagnostics o [] s v p = [] ↔
      (∀ values, s.enumeration = some values → ∃ value ∈ values, value.equals v = true) ∧
        s.messages v = [] := by
  unfold ownDiagnostics
  cases s.enumeration with
  | none => simp [structural]
  | some values =>
    by_cases listed : values.any (·.equals v) = true
    · have present := List.any_eq_true.1 listed
      simp [listed, structural, present]
    · have missing := mt List.any_eq_true.2 listed
      simp only [listed, Bool.false_eq_true, if_false, List.append_eq_nil_iff, List.cons_ne_nil,
        false_and, Option.some.injEq, forall_eq', missing]

theorem Compiles.visit_eq_nil_iff_sat (compiled : Compiles raw s) (structural : o.structural = true)
    (v : Json) (p : Pointer) (within : p.depth + v.depth ≤ o.maxDepth) :
    s.visit o [] v p = [] ↔ Sat raw v := by
  -- Alternatives see the same value and children a smaller one; both have smaller documents.
  induction raw using Subschema.induction generalizing s v p with
  | step raw ih =>
    have shallow : p.depth ≤ o.maxDepth := by omega
    have allowed : s.allowed.admits (Kind.of v) = true ↔ raw.allowedKinds.Admits (Kind.of v) := by
      rw [TypeSet.admits_iff, Kinds.admits_congr compiled.allowed_iff]
    have named : s.named.admits (Kind.of v) = true ↔ raw.grantedKinds.Admits (Kind.of v) := by
      rw [TypeSet.admits_iff, Kinds.admits_congr compiled.named_iff]
    have alternatives : (∃ place t, (place, t) ∈ s.alternatives ∧ t.visit o [] v p = []) ↔
        ∃ place alternative, ∃ _ : Subschema raw (.alternative place) alternative,
          Sat alternative v := by
      simp only [exists_prop]
      apply compiled.exists_alternative_iff
      intro place sub t inside nested
      exact ih _ sub inside nested v p within
    have children : s.inner o [] v p = [] ↔
        ∀ step w, (step, w) ∈ v.places → ∀ sub, raw.schemaAt? step = some sub → Sat sub w := by
      rw [inner_eq_nil_iff]
      refine forall_congr' fun step => forall_congr' fun w => forall_congr' fun place => ?_
      have below := Json.depth_lt_of_mem_places place
      have room : (p.step step).depth + w.depth ≤ o.maxDepth := by
        rw [Pointer.depth_step]
        omega
      have related := compiled.rel_at? step
      generalize happlies : raw.schemaAt? step = applies, s.at? step = found at related
      cases related with
      | none => simp
      | some nested =>
        obtain ⟨position, inside⟩ := Json.subschema_of_schemaAt? happlies
        simpa using ih position _ inside nested w (p.step step) room
    rw [Sat, visit_eq_nil_iff, typePasses_iff, ownDiagnostics_eq_nil_iff structural,
      compiled.enumeration_iff, compiled.messages_eq_nil_iff, allowed, named, alternatives, children]
    simp only [shallow, structural, true_and, forall_const, and_assoc]

theorem Compiles.check_eq (compiled : Compiles raw s) (checks : List Check) (v : Json) :
    { Validator.ofSchema raw with options := o, checks := checks }.check v =
      ⟨s.visit o checks v .root⟩ := by
  simp only [Validator.check, Validator.ofSchema, Validator.ofSchema?, Option.map_some,
    Node.compile]
  rw [compiled]

/-- A validation passes a value exactly where the value satisfies the document of the schema. -/
theorem check_passed_iff_sat {raw : Json} (valid : (Node.compile raw).isValid = true) (v : Json)
    {o : Options} (structural : o.structural = true) (within : v.depth ≤ o.maxDepth) :
    ({ Validator.ofSchema raw with options := o }.check v).passed = true ↔ Sat raw v := by
  obtain ⟨s, found⟩ := Option.isSome_iff_exists.1 valid
  have compiled := compiles_of_schema? found
  have report : { Validator.ofSchema raw with options := o }.check v = ⟨s.visit o [] v .root⟩ :=
    compiled.check_eq [] v
  rw [report, Report.passed_iff]
  exact compiled.visit_eq_nil_iff_sat structural v .root (by simpa using within)

end Schema

end

namespace Schema

def adultSchema : Json :=
  .object [
    ("disallow", .array [.string "null"]),
    ("type", .array [.string "integer", .object [
      ("properties", .object [("age", .object [
        ("minimum", .number (.integer 18 (by decide))),
        ("type", .string "number")])]),
      ("type", .string "object")]])]

def aged (years : Int) (fits : Fits64 years := by decide) : Json :=
  .object [("age", .number (.integer years fits))]

theorem check_passed_iff_sat_adult :
    (Node.compile adultSchema).isValid = true ∧ Options.default.structural = true ∧
      (aged 21).depth ≤ Options.default.maxDepth ∧ (aged 12).depth ≤ Options.default.maxDepth ∧
      Sat adultSchema (aged 21) ∧ ¬ Sat adultSchema (aged 12) := by
  have valid : (Node.compile adultSchema).isValid = true := rfl
  have structural : Options.default.structural = true := rfl
  have within (years : Int) (fits : Fits64 years) :
      (aged years fits).depth ≤ Options.default.maxDepth := by
    have depth : (aged years fits).depth = 1 := rfl
    rw [depth]
    decide
  refine ⟨valid, structural, within _ _, within _ _, ?_, ?_⟩
  · rw [← check_passed_iff_sat valid (aged 21) structural (within _ _)]
    decide +kernel
  · rw [← check_passed_iff_sat valid (aged 12) structural (within _ _)]
    decide +kernel

end Schema

end JsonSchema
