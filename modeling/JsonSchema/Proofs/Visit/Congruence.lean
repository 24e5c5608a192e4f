import JsonSchema.Proofs.Keyword.Congruence
import JsonSchema.Proofs.Visit.Shape
import JsonSchema.Proofs.Visit.Union

set_option autoImplicit false

namespace JsonSchema

def Diagnostic.outline (d : Diagnostic) : DiagnosticKind × Pointer := (d.kind, d.pointer)

theorem outline_keywords (texts : List String) (p : Pointer) :
    (texts.map (⟨.keyword, p, ·⟩)).map Diagnostic.outline =
      List.replicate texts.length (DiagnosticKind.keyword, p) := by
  have said : Diagnostic.outline ∘ (⟨.keyword, p, ·⟩) = fun _ => (DiagnosticKind.keyword, p) := rfl
  rw [List.map_map, said, List.map_const']

section

variable [PatternEngine]

namespace Schema

variable {o : Options} {s : Schema} {a b : Json}

theorem enumDiagnostics_eq_of_equals (sorted : a.Sorted) (sorted' : b.Sorted)
    (same : a.equals b = true) (p : Pointer) : enumDiagnostics s a p = enumDiagnostics s b p := by
  unfold enumDiagnostics
  cases s.enumeration with
  | none => rfl
  | some values => simp only [Json.equals_right_congr sorted sorted' same]

theorem outline_ownDiagnostics (plain : s.rules.divisor = none) (sorted : a.Sorted)
    (sorted' : b.Sorted) (same : a.equals b = true) (p : Pointer) :
    (ownDiagnostics o [] s a p).map Diagnostic.outline =
      (ownDiagnostics o [] s b p).map Diagnostic.outline := by
  have texts : (keywordTexts o [] s a p).length = (keywordTexts o [] s b p).length := by
    have messages := s.length_messages_of_equals plain sorted sorted' same
    unfold keywordTexts
    cases o.structural with
    | false => rfl
    | true => simpa using messages
  rw [ownDiagnostics_eq, ownDiagnostics_eq, List.map_append, List.map_append, outline_keywords,
    outline_keywords, texts, enumDiagnostics_eq_of_equals sorted sorted' same]

theorem outline_visit_of_equals (plain : s.Everywhere fun t => t.rules.divisor = none)
    (sorted : a.Sorted) (sorted' : b.Sorted) (same : a.equals b = true) (p : Pointer) :
    (s.visit o [] a p).map Diagnostic.outline = (s.visit o [] b p).map Diagnostic.outline := by
  induction s using Schema.induction generalizing a b p with
  | step s ih =>
    have kind := Json.kind_eq_of_equals same
    -- A trial passes where it is silent, and an outline tells that.
    have typed : s.typePasses o [] a p = s.typePasses o [] b p := by
      rw [Bool.eq_iff_iff, typePasses_iff, typePasses_iff, kind]
      refine or_congr_right (exists_congr fun place => exists_congr fun t => and_congr_right ?_)
      intro member
      have child : Child s (.alternative place) t := .alternative member
      have outlines := ih _ t child (plain.child child) sorted sorted' same p
      rw [← List.map_eq_nil_iff (f := Diagnostic.outline), outlines, List.map_eq_nil_iff]
    have outcome := visited o [] s a p
    generalize s.visit o [] a p = found at outcome
    cases outcome with
    | tooDeep deep => rw [(Visited.tooDeep deep).eq]
    | kindMismatch shallow refused =>
      rw [kind] at refused ⊢
      rw [(Visited.kindMismatch shallow refused).eq]
    | alternativeMismatch shallow allowed untyped =>
      rw [kind] at allowed
      rw [typed] at untyped
      rw [(Visited.alternativeMismatch shallow allowed untyped).eq]
    | typed shallow allowed passes =>
      rw [kind] at allowed
      rw [typed] at passes
      rw [(Visited.typed shallow allowed passes).eq, List.map_append, List.map_append,
        outline_ownDiagnostics plain.root sorted sorted' same, List.map_flatMap, List.map_flatMap]
      have steps := Json.places_of_equals sorted sorted' same
      refine congrArg _ (flatMap_eq_of_forall₂ (forall₂_imp_of_mem steps ?_) fun _ _ => id)
      intro x place y place' related
      obtain ⟨step, v⟩ := x
      obtain ⟨_, w⟩ := y
      obtain ⟨rfl, equal⟩ := related
      unfold stepDiagnostics
      cases o.structural with
      | false => rfl
      | true =>
        cases found : s.at? step with
        | none => rfl
        | some t =>
          obtain ⟨position, child⟩ := child_of_at? found
          exact ih position t child (plain.child child) (sorted.inside place)
            (sorted'.inside place') equal _

/-- Equal documents get the same verdict, and diagnostics of the same kinds at the same places in
the same order, however their numbers are written and whatever the options are, as long as no
schema of the tree has a divisor. -/
theorem findings_of_equals {raw : Json} {s : Schema}
    (compiled : (Node.compile raw).schema? = some s)
    (plain : s.Everywhere fun t => t.rules.divisor = none) {a b : Json} (sorted : a.Sorted)
    (sorted' : b.Sorted) (same : a.equals b = true) (o : Options) :
    (findings o raw a).map Diagnostic.outline = (findings o raw b).map Diagnostic.outline ∧
      accepts o raw a = accepts o raw b := by
  have compiles := compiles_of_schema? compiled
  have outlines := outline_visit_of_equals (o := o) plain sorted sorted' same .root
  constructor
  · rw [compiles.findings_eq, compiles.findings_eq]
    exact outlines
  · rw [Bool.eq_iff_iff, compiles.accepts_iff, compiles.accepts_iff,
      ← List.map_eq_nil_iff (f := Diagnostic.outline), outlines, List.map_eq_nil_iff]

end Schema

end

namespace Schema

def countsSchema : Json :=
  .object [
    ("enum", .array [.array [.number (.integer 16 (by decide)), .number (.integer 0 (by decide))]]),
    ("items", .object [
      ("minimum", .number (.integer 11 (by decide))),
      ("type", .string "integer")]),
    ("uniqueItems", .bool true)]

def counts : Json :=
  .array [.number (.integer 16 (by decide)), .number (.integer 0 (by decide))]

def floatCounts : Json :=
  .array [.number (.float ⟨false, 1 <<< 52, 1026, by decide, by decide, .inr (by decide)⟩),
    .number (.float (.zero true))]

theorem findings_of_equals_counts :
    ∃ s, (Node.compile countsSchema).schema? = some s ∧
      (s.Everywhere fun t => t.rules.divisor = none) ∧ counts.Sorted ∧ floatCounts.Sorted ∧
      counts.equals floatCounts = true ∧
      (findings .default countsSchema counts).map Diagnostic.outline =
        (findings .default countsSchema floatCounts).map Diagnostic.outline ∧
      (findings .default countsSchema floatCounts).map Diagnostic.outline =
        [(.keyword, Pointer.root.index 1)] ∧
      findings .default countsSchema counts ≠ findings .default countsSchema floatCounts := by
  have compiled : ∃ s, (Node.compile countsSchema).schema? = some s ∧
      s.Everywhere fun t => t.rules.divisor = none := by
    -- The only schema inside is that of the elements.
    refine ⟨_, rfl, everywhere_of_children rfl ?_⟩
    rintro _ _ (child | child | ⟨child, _⟩ | child | child | child) <;> cases child
    refine everywhere_of_children rfl ?_
    rintro _ _ (child | child | ⟨child, _⟩ | child | child | child) <;> cases child
  obtain ⟨s, compiled, plain⟩ := compiled
  have number (n : Number) : (Json.number n).Sorted := Json.sorted_of_places_eq_nil rfl
  have sorted : counts.Sorted := Json.sorted_array (by simp [number])
  have sorted' : floatCounts.Sorted := Json.sorted_array (by simp [number])
  have same : counts.equals floatCounts = true := by decide +kernel
  have agree := findings_of_equals compiled plain sorted sorted' same .default
  exact ⟨s, compiled, plain, sorted, sorted', same, agree.1, by decide +kernel, by decide +kernel⟩

end Schema

end JsonSchema
