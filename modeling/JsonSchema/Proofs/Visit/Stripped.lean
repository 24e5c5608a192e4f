import JsonSchema.Proofs.Compile.Stripped
import JsonSchema.Proofs.Visit.Limit

set_option autoImplicit false

namespace JsonSchema.Schema

section

variable [PatternEngine]

variable {raw : Json} {s bare : Schema}

section Same

variable (compiled : Compiles raw s) (stripped : Compiles raw.stripped bare)
include compiled stripped

theorem Compiles.ownDiagnostics_stripped (limit larger : Nat) (v : Json) (p : Pointer) :
    ownDiagnostics ⟨true, larger⟩ [] bare v p = ownDiagnostics ⟨false, limit⟩ [] s v p := by
  have silent := (stripped.messages_eq_nil_iff v).2 (raw.hasNoKeywords_stripped.fits v)
  simp only [ownDiagnostics, compiled.enumeration_stripped stripped, silent, List.map_nil, if_true,
    Bool.false_eq_true, if_false, List.flatMap_nil]

theorem Compiles.visit_stripped {limit larger : Nat} (v : Json) {p : Pointer}
    (shallow : p.depth ≤ limit) (shallower : p.depth ≤ larger) :
    bare.visit ⟨true, larger⟩ [] v p = s.visit ⟨false, limit⟩ [] v p := by
  induction raw using Subschema.induction generalizing s bare with
  | step raw ih =>
    -- The trials are at this very place, so they are walks of the same two sorts.
    have typed : bare.typePasses ⟨true, larger⟩ [] v p = s.typePasses ⟨false, limit⟩ [] v p := by
      rw [Bool.eq_iff_iff, typePasses_iff, typePasses_iff, compiled.named_stripped stripped]
      refine or_congr_right ⟨?_, ?_⟩
      · intro passed
        obtain ⟨place, t, member, silent⟩ := passed
        obtain ⟨sub, inside, nested⟩ := (stripped.mem_alternatives_iff place t).1 member
        obtain ⟨whole, listed, rfl⟩ := Json.alternative_stripped_iff.1 inside
        obtain ⟨u, original⟩ := compiled.subschema listed
        refine ⟨place, u, (compiled.mem_alternatives_iff place u).2 ⟨whole, listed, original⟩, ?_⟩
        rw [← ih _ whole listed original nested]
        exact silent
      · intro passed
        obtain ⟨place, u, member, silent⟩ := passed
        obtain ⟨whole, inside, original⟩ := (compiled.mem_alternatives_iff place u).1 member
        obtain ⟨t, nested⟩ := original.exists_stripped
        refine ⟨place, t, (stripped.mem_alternatives_iff place t).2
          ⟨_, Json.alternative_stripped_iff.2 ⟨whole, inside, rfl⟩, nested⟩, ?_⟩
        rw [ih _ whole inside original nested]
        exact silent
    have inner : bare.inner ⟨true, larger⟩ [] v p = [] :=
      stripped.inner_eq_nil raw.hasNoKeywords_stripped.schemaAt?_eq_none v p
    rw [visit_eq, visit_eq, if_neg (Nat.not_lt.2 shallow), if_neg (Nat.not_lt.2 shallower), typed,
      inner, compiled.ownDiagnostics_stripped stripped limit larger,
      compiled.allowed_stripped stripped]
    simp only [kindMismatch, compiled.allowed_stripped stripped, ite_self, Bool.false_eq_true,
      if_false]

end Same

theorem pointer_of_mem_visit {limit : Nat} {v : Json} {p : Pointer} {d : Diagnostic}
    (member : d ∈ s.visit ⟨false, limit⟩ [] v p) : d.pointer = p := by
  have outcome := visited ⟨false, limit⟩ [] s v p
  generalize s.visit ⟨false, limit⟩ [] v p = found at outcome member
  cases outcome with
  | tooDeep | kindMismatch | alternativeMismatch =>
    rw [List.mem_singleton.1 member]
    rfl
  | typed =>
    rcases List.mem_append.1 member with own | below
    · exact pointer_of_mem_ownDiagnostics own
    · obtain ⟨_, _, inside⟩ := List.mem_flatMap.1 below
      cases inside

/-- Leaving the keywords out is leaving them out of the document: the document without them is
valid, allows the same kinds, and gives the same report with its keywords as the whole document
without. Such a report speaks about the root alone, whatever the limit is. -/
theorem foundWithin_stripped {raw : Json} (valid : (Node.compile raw).isValid = true) :
    (∃ s bare, (Node.compile raw).schema? = some s ∧
        (Node.compile raw.stripped).schema? = some bare ∧
        bare.allowed = s.allowed ∧ bare.named = s.named) ∧
      ∀ (limit larger : Nat) (v : Json),
        foundWithin limit raw false [] v = foundWithin larger raw.stripped true [] v ∧
        (∀ d ∈ foundWithin limit raw false [] v, d.pointer = .root) ∧
        foundWithin larger raw false [] v = foundWithin limit raw false [] v ∧
        ∀ other : Json, (Node.compile other).isValid = true → other.stripped = raw.stripped →
          foundWithin larger other false [] v = foundWithin limit raw false [] v := by
  have same {raw : Json} (valid : (Node.compile raw).isValid = true) (limit larger : Nat) (v : Json) :
      foundWithin limit raw false [] v = foundWithin larger raw.stripped true [] v := by
    obtain ⟨s, compiled⟩ := (isValid_compile_iff raw).1 valid
    obtain ⟨bare, stripped⟩ := compiled.exists_stripped
    rw [compiled.foundWithin_eq, stripped.foundWithin_eq]
    exact (compiled.visit_stripped stripped v (Nat.zero_le _) (Nat.zero_le _)).symm
  obtain ⟨s, compiled⟩ := (isValid_compile_iff raw).1 valid
  obtain ⟨bare, stripped⟩ := compiled.exists_stripped
  constructor
  · exact ⟨s, bare, compiled.schema?_compile, stripped.schema?_compile,
      compiled.allowed_stripped stripped, compiled.named_stripped stripped⟩
  · intro limit larger v
    refine ⟨same valid limit larger v, ?_, ?_, ?_⟩
    · intro d member
      rw [compiled.foundWithin_eq] at member
      exact pointer_of_mem_visit member
    · rw [same valid larger limit, same valid limit limit]
    · intro other accepted agree
      rw [same accepted larger limit, same valid limit limit, agree]

end

def wordSchema : Json :=
  .object [
    ("disallow", .array [.object [("minimum", .number (.integer 1 (by decide))),
      ("type", .string "boolean")]]),
    ("minItems", .number (.integer 6 (by decide))),
    ("type", .array [.string "null", .object [
      ("properties", .object [("title", .object [("required", .bool true)])]),
      ("type", .array [.string "object", .object [
        ("enum", .array [.string "a", .string "word"]),
        ("minLength", .number (.integer 9 (by decide))),
        ("type", .string "string")]])]])]

set_option maxRecDepth 4000 in
theorem foundWithin_stripped_word :
    (Node.compile wordSchema).isValid = true ∧
      wordSchema.stripped = .object [
        ("disallow", .array [.object [("minimum", .number (.integer 1 (by decide))),
          ("type", .string "boolean")]]),
        ("type", .array [.string "null", .object [
          ("type", .array [.string "object", .object [
            ("enum", .array [.string "a", .string "word"]),
            ("type", .string "string")]])]])] ∧
      foundWithin 3 wordSchema true [] (.string "word") ≠ [] ∧
      foundWithin 3 wordSchema false [] (.string "word") =
        foundWithin 0 wordSchema.stripped true [] (.string "word") ∧
      ∀ d ∈ foundWithin 3 wordSchema false [] (.bool true), d.pointer = .root := by
  have valid : (Node.compile wordSchema).isValid = true := rfl
  have agree := (foundWithin_stripped valid).2 3 0
  exact ⟨valid, rfl, by decide +kernel, (agree (.string "word")).1, (agree (.bool true)).2.1⟩

end JsonSchema.Schema
