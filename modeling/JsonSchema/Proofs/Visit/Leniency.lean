import JsonSchema.Checks
import JsonSchema.Proofs.Visit.Verdict

set_option autoImplicit false

namespace JsonSchema

section

variable [PatternEngine]

-- What the second validation asks for, the first one asks for too.
structure Lenient (strict lenient : Options) (checks fewer : List Check) : Prop where
  depth : strict.maxDepth ≤ lenient.maxDepth
  structural : lenient.structural = true → strict.structural = true
  checks : ∀ check ∈ fewer, check ∈ checks

namespace Schema

variable {o o' : Options} {checks fewer : List Check}

theorem ownDiagnostics_eq_nil_of_lenient (less : Lenient o o' checks fewer) {s : Schema} {v : Json}
    {p : Pointer} (silent : ownDiagnostics o checks s v p = []) :
    ownDiagnostics o' fewer s v p = [] := by
  unfold ownDiagnostics at silent ⊢
  simp only [List.append_eq_nil_iff, List.flatMap_eq_nil_iff] at silent ⊢
  obtain ⟨⟨listed, keywords⟩, added⟩ := silent
  refine ⟨⟨listed, ?_⟩, fun check member => added check (less.checks check member)⟩
  cases structural : o'.structural with
  | false => rfl
  | true => simpa [less.structural structural] using keywords

theorem typePasses_of_silent {s : Schema} {v : Json} {p : Pointer}
    (each : ∀ place t, (place, t) ∈ s.alternatives → t.visit o checks v p = [] →
      t.visit o' fewer v p = []) (typed : s.typePasses o checks v p = true) :
    s.typePasses o' fewer v p = true := by
  refine (typePasses_iff ..).2 (((typePasses_iff ..).1 typed).imp_right ?_)
  intro passed
  obtain ⟨place, t, member, quiet⟩ := passed
  exact ⟨place, t, member, each place t member quiet⟩

-- One step: silence passes on to every schema, given that it does so for the schemas below it.
theorem visit_eq_nil_of_lenient (less : Lenient o o' checks fewer) (s : Schema) (v : Json)
    (p : Pointer) (silent : s.visit o checks v p = []) : s.visit o' fewer v p = [] := by
  induction s using Schema.induction generalizing v p with
  | step s ih =>
    obtain ⟨shallow, allowed, typed, own, inner⟩ := (visit_eq_nil_iff ..).1 silent
    refine (visit_eq_nil_iff ..).2 ⟨Nat.le_trans shallow less.depth, allowed, ?_,
      ownDiagnostics_eq_nil_of_lenient less own, ?_⟩
    · exact typePasses_of_silent (fun _ t member => ih _ t (.alternative member) v p) typed
    · intro structural
      have quiet := (inner_eq_nil_iff ..).1 (inner (less.structural structural))
      refine (inner_eq_nil_iff ..).2 fun step w place t found => ?_
      obtain ⟨position, child⟩ := child_of_at? found
      exact ih position t child w _ (quiet step w place t found)

end Schema

/-- Whatever a validator lets pass, a validator for the same schema that asks for less lets pass
too. -/
theorem Validator.passed_of_lenient {strict lenient : Validator} (root : lenient.root = strict.root)
    (less : Lenient strict.options lenient.options strict.checks lenient.checks) (v : Json)
    (passed : (strict.check v).passed = true) : (lenient.check v).passed = true := by
  unfold Validator.check at passed ⊢
  rw [root]
  cases found : strict.root with
  | none => simp [found, Report.passed] at passed
  | some node =>
    simp only [found] at passed ⊢
    cases outcome : node.outcome with
    | error cause => simp [outcome, Report.passed] at passed
    | ok s =>
      simp only [outcome, Report.passed_iff] at passed ⊢
      exact Schema.visit_eq_nil_of_lenient less s v .root passed

end

def longWordsSchema : Json :=
  .object [("type", .array [.string "null", .object [("items", .object [
    ("minLength", .number (.integer 2 (by decide))),
    ("type", .string "string")])]])]

def longWords : Json := .array [.string "ab", .string "cd"]

def strictWords : Validator :=
  { Validator.ofSchema longWordsSchema with
    options := ⟨true, 1⟩, checks := [Checks.keywords, Checks.nonEmptyStrings] }

def lenientWords : Validator :=
  { strictWords with options := ⟨false, 3⟩, checks := [Checks.nonEmptyStrings] }

theorem Validator.passed_of_lenient_words :
    lenientWords.root = strictWords.root ∧
      Lenient strictWords.options lenientWords.options strictWords.checks lenientWords.checks ∧
      (strictWords.check longWords).passed = true ∧
      (lenientWords.check longWords).passed = true := by
  have root : lenientWords.root = strictWords.root := rfl
  have less : Lenient strictWords.options lenientWords.options strictWords.checks
      lenientWords.checks :=
    ⟨by decide, nofun, by simp [strictWords, lenientWords]⟩
  have passed : (strictWords.check longWords).passed = true := by decide +kernel
  exact ⟨root, less, passed, passed_of_lenient root less longWords passed⟩

end JsonSchema
