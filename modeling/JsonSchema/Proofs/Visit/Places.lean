import JsonSchema.Proofs.Compile.Lookup
import JsonSchema.Proofs.Compile.Tree
import JsonSchema.Visit

set_option autoImplicit false

namespace JsonSchema.Schema

variable [PatternEngine]

theorem child_of_at? {s t : Schema} {step : Step} (found : s.at? step = some t) :
    ∃ position, Child s position t := by
  have additional {a : Additional Schema} (schema : a.schema? = some t) : a = .schema t := by
    cases a with
    | schema u =>
      cases schema
      rfl
    | _ => cases schema
  cases step with
  | key name =>
    rcases Option.or_eq_some_iff.1 found with property | ⟨_, others⟩
    · exact ⟨_, .property (mem_of_lookup property)⟩
    · exact ⟨_, .additionalProperties (additional others)⟩
  | index place =>
    unfold at? itemSchema? at found
    dsimp only at found
    split at found
    · cases found
    next uniform =>
      cases found
      exact ⟨_, .items uniform⟩
    next schemas tuple =>
      rcases Option.or_eq_some_iff.1 found with item | ⟨_, others⟩
      · exact ⟨_, .item tuple item⟩
      · exact ⟨_, .additionalItems (additional others)⟩

variable (o : Options) (checks : List Check) (s : Schema) (v : Json) (p : Pointer)

theorem inner_eq :
    s.inner o checks v p = v.places.flatMap fun x =>
      ((s.at? x.1).map (visit o checks · x.2 (p.step x.1))).getD [] := by
  cases v with
  | array elements =>
    rw [inner, Json.places, List.flatMap_map]
    rfl
  | object members =>
    rw [inner, Json.places, List.flatMap_map]
    rfl
  | _ => rfl

def stepDiagnostics (step : Step) (w : Json) : List Diagnostic :=
  if o.structural then ((s.at? step).map (visit o checks · w (p.step step))).getD [] else []

-- Whether the walk goes on, and with which schema, does not depend on the limit.
theorem stepDiagnostics_eq (structural : Bool) (step : Step) (w : Json) :
    (∀ limit, stepDiagnostics ⟨structural, limit⟩ checks s p step w = []) ∨
      ∃ t, s.at? step = some t ∧ ∀ limit, stepDiagnostics ⟨structural, limit⟩ checks s p step w =
        t.visit ⟨structural, limit⟩ checks w (p.step step) := by
  unfold stepDiagnostics
  cases structural with
  | false => exact .inl fun _ => rfl
  | true =>
    cases found : s.at? step with
    | none => exact .inl fun _ => rfl
    | some t => exact .inr ⟨t, rfl, fun _ => rfl⟩

inductive Visited : List Diagnostic → Prop where
  | tooDeep (deep : o.maxDepth < p.depth) : Visited [depthDiagnostic o p]
  | kindMismatch (shallow : p.depth ≤ o.maxDepth)
      (refused : s.allowed.admits (Kind.of v) = false) : Visited [s.kindMismatch (Kind.of v) p]
  | alternativeMismatch (shallow : p.depth ≤ o.maxDepth)
      (allowed : s.allowed.admits (Kind.of v) = true)
      (untyped : s.typePasses o checks v p = false) : Visited [Schema.alternativeMismatch p]
  | typed (shallow : p.depth ≤ o.maxDepth) (allowed : s.allowed.admits (Kind.of v) = true)
      (typed : s.typePasses o checks v p = true) :
      Visited (ownDiagnostics o checks s v p ++
        v.places.flatMap fun x => stepDiagnostics o checks s p x.1 x.2)

theorem Visited.eq {found : List Diagnostic} (visited : Visited o checks s v p found) :
    s.visit o checks v p = found := by
  rw [visit_eq]
  cases visited with
  | tooDeep deep => exact if_pos deep
  | kindMismatch shallow refused =>
    rw [if_neg (Nat.not_lt.2 shallow), refused]
    exact if_pos rfl
  | alternativeMismatch shallow allowed untyped =>
    rw [if_neg (Nat.not_lt.2 shallow), allowed, untyped]
    rfl
  | typed shallow allowed typed =>
    rw [if_neg (Nat.not_lt.2 shallow), allowed, typed, Bool.not_true, if_neg Bool.false_ne_true,
      if_pos rfl, inner_eq]
    unfold stepDiagnostics
    cases o.structural with
    | false =>
      rw [if_neg Bool.false_ne_true, List.flatMap_eq_nil_iff.2]
      exact fun _ _ => if_neg Bool.false_ne_true
    | true => rfl

theorem visited : Visited o checks s v p (s.visit o checks v p) := by
  have outcome : ∃ found, Visited o checks s v p found := by
    by_cases deep : o.maxDepth < p.depth
    · exact ⟨_, .tooDeep deep⟩
    have shallow : p.depth ≤ o.maxDepth := Nat.not_lt.1 deep
    cases allowed : s.allowed.admits (Kind.of v) with
    | false => exact ⟨_, .kindMismatch shallow allowed⟩
    | true =>
      cases typed : s.typePasses o checks v p with
      | false => exact ⟨_, .alternativeMismatch shallow allowed typed⟩
      | true => exact ⟨_, .typed shallow allowed typed⟩
  obtain ⟨found, outcome⟩ := outcome
  rw [outcome.eq]
  exact outcome

theorem inner_eq_nil_iff :
    s.inner o checks v p = [] ↔ ∀ step w, (step, w) ∈ v.places → ∀ t, s.at? step = some t →
      t.visit o checks w (p.step step) = [] := by
  rw [inner_eq, List.flatMap_eq_nil_iff]
  constructor
  · intro silent step w place t found
    have quiet := silent (step, w) place
    simpa [found] using quiet
  · intro silent place member
    obtain ⟨step, w⟩ := place
    cases found : s.at? step with
    | none => rfl
    | some t =>
      have quiet := silent step w member t found
      simpa using quiet

theorem Compiles.inner_eq_nil {o : Options} {checks : List Check} {raw : Json} {s : Schema}
    (compiled : Compiles raw s) (nowhere : ∀ step, raw.schemaAt? step = none) (v : Json)
    (p : Pointer) : s.inner o checks v p = [] := by
  apply (inner_eq_nil_iff ..).2
  intro step w place t found
  have related := compiled.rel_at? step
  rw [nowhere, found] at related
  cases related

-- A value with no diagnostics has passed every test on the way, so each of them can be read off.
theorem visit_eq_nil_iff :
    s.visit o checks v p = [] ↔ p.depth ≤ o.maxDepth ∧ s.allowed.admits (Kind.of v) = true ∧
      s.typePasses o checks v p = true ∧ ownDiagnostics o checks s v p = [] ∧
      (o.structural = true → s.inner o checks v p = []) := by
  rw [visit_eq]
  by_cases deep : o.maxDepth < p.depth
  · simp [deep, Nat.not_le.2 deep]
  have shallow : p.depth ≤ o.maxDepth := by omega
  cases allowed : s.allowed.admits (Kind.of v) with
  | false => simp [deep]
  | true =>
    cases typed : s.typePasses o checks v p with
    | false => simp [deep]
    | true => cases structural : o.structural <;> simp [deep, shallow]

theorem typePasses_iff :
    s.typePasses o checks v p = true ↔ s.named.admits (Kind.of v) = true ∨
      ∃ place t, (place, t) ∈ s.alternatives ∧ t.visit o checks v p = [] := by
  simp only [typePasses, Bool.or_eq_true, List.any_eq_true, Prod.exists, Bool.and_eq_true,
    List.isEmpty_iff]
  refine or_congr_right ⟨?_, ?_⟩
  · intro passed
    obtain ⟨place, t, member, _, silent⟩ := passed
    exact ⟨place, t, member, silent⟩
  · intro passed
    obtain ⟨place, t, member, silent⟩ := passed
    exact ⟨place, t, member, ((visit_eq_nil_iff ..).1 silent).2.1, silent⟩

end JsonSchema.Schema
