import JsonSchema.Proofs.Visit.Disallow
import JsonSchema.Proofs.Visit.Fragments

set_option autoImplicit false

namespace JsonSchema

def Json.untyped (raw : Json) : Json := (raw.erase "type").erase "disallow"

theorem Json.member?_untyped (raw : Json) (name : String) : raw.untyped.member? name =
    if name ∈ ["type", "disallow"] then none else raw.member? name := by
  rw [untyped, member?_erase, member?_erase]
  by_cases type : name = "type"
  · simp [type]
  · by_cases disallow : name = "disallow" <;> simp [type, disallow]

section

variable [PatternEngine]

namespace Schema

variable {raw : Json} {s : Schema} {o : Options} {v : Json}

section Gate

variable (compiled : Compiles raw s)
include compiled

theorem Compiles.untyped : Compiles raw.untyped
    { s with raw := raw.untyped, allowed := .all, named := .all, alternatives := [] } := by
  obtain ⟨_, _, parts⟩ := compiles_iff.1 compiled
  have absent {name : String} (types : name ∈ ["type", "disallow"]) :
      raw.untyped.member? name = none := by rw [Json.member?_untyped, if_pos types]
  have same {name : String} (other : name ∉ ["type", "disallow"]) :
      raw.untyped.member? name = raw.member? name := by rw [Json.member?_untyped, if_neg other]
  have object : raw.untyped.isObject = true := by
    rw [Json.untyped, Json.isObject_erase, Json.isObject_erase]
    exact parts.object
  have additional : IsAdditional (raw.untyped.member? "additionalItems") s.additionalItems := by
    rw [same (by decide)]
    exact parts.additionalItems
  have inhabited : (TypeSet.all.without .empty).isEmpty = false := rfl
  have replaced := compiled.replace object (fun name other => same fun types => other (by simp_all))
    (.absent (absent (by decide))) (.absent (absent (by decide))) inhabited additional
  simpa only [TypeSet.without_empty] using replaced

theorem Compiles.findings_untyped : findings o raw.untyped v = s.reportTyped o v .root := by
  rw [compiled.untyped.findings_eq]
  exact visit_eq_reportTyped (Nat.zero_le _) (TypeSet.admits_all _)
    (by rw [typePasses, TypeSet.admits_all, Bool.true_or])

theorem Compiles.accepts_types_iff : accepts o (raw.restrict ["type", "disallow"]) v = true ↔
    s.allowed.admits (Kind.of v) = true ∧ s.typePasses o [] v .root = true := by
  have types : ["type", "disallow"] ∈ Keyword.groups := by decide
  rw [accepts, Report.passed_iff, ← compiled.visit_types_eq_nil_iff (Nat.zero_le _),
    ← compiled.findings_restrict types]
  rfl

theorem Compiles.findings_of_typed
    (typed : accepts o (raw.restrict ["type", "disallow"]) v = true) :
    findings o raw v = findings o raw.untyped v := by
  obtain ⟨allowed, passes⟩ := compiled.accepts_types_iff.1 typed
  rw [compiled.findings_eq, compiled.findings_untyped]
  exact visit_eq_reportTyped (Nat.zero_le _) allowed passes

theorem Compiles.findings_of_mistyped
    (mistyped : accepts o (raw.restrict ["type", "disallow"]) v = false) :
    findings o raw v = findings o (raw.restrict ["type", "disallow"]) v ∧
      ∃ message, findings o raw v = [⟨.typeMismatch, .root, message⟩] := by
  have types : ["type", "disallow"] ∈ Keyword.groups := by decide
  have shallow : Pointer.root.depth ≤ o.maxDepth := Nat.zero_le _
  have closed : ¬(s.allowed.admits (Kind.of v) = true ∧ s.typePasses o [] v .root = true) := by
    rw [← compiled.accepts_types_iff, mistyped]
    exact Bool.false_ne_true
  rw [compiled.findings_eq, compiled.findings_restrict types]
  -- Both schemas have the same kinds and the same alternatives.
  cases allowed : s.allowed.admits (Kind.of v) with
  | false =>
    rw [(Visited.kindMismatch shallow allowed).eq]
    exact ⟨(Visited.kindMismatch (s := s.restrict ["type", "disallow"]) shallow allowed).eq.symm,
      _, rfl⟩
  | true =>
    have untyped : s.typePasses o [] v .root = false := by simpa [allowed] using closed
    rw [(Visited.alternativeMismatch shallow allowed untyped).eq]
    exact ⟨(Visited.alternativeMismatch (s := s.restrict ["type", "disallow"]) shallow allowed
      untyped).eq.symm, _, rfl⟩

end Gate

/-- A schema without its types is a schema, and so are its types by themselves. Where the types let
a value through, the report is that of the schema without them, and otherwise it is that of the
types: one mismatch at the root. -/
theorem findings_gate {raw : Json} (valid : (Node.compile raw).isValid = true) (o : Options)
    (v : Json) :
    (Node.compile raw.untyped).isValid = true ∧
      (Node.compile (raw.restrict ["type", "disallow"])).isValid = true ∧
      (accepts o (raw.restrict ["type", "disallow"]) v = true →
        findings o raw v = findings o raw.untyped v) ∧
      (accepts o (raw.restrict ["type", "disallow"]) v = false →
        findings o raw v = findings o (raw.restrict ["type", "disallow"]) v) ∧
      ((∃ message, findings o raw v = [⟨.typeMismatch, .root, message⟩]) ↔
        accepts o (raw.restrict ["type", "disallow"]) v = false) := by
  obtain ⟨s, compiled⟩ := (isValid_compile_iff raw).1 valid
  refine ⟨?_, ?_, compiled.findings_of_typed,
    fun mistyped => (compiled.findings_of_mistyped mistyped).1, ?_⟩
  · exact (isValid_compile_iff _).2 ⟨_, compiled.untyped⟩
  · exact (isValid_iff_groups raw).1 valid _ (by decide)
  · constructor
    · intro mismatch
      obtain ⟨message, mismatch⟩ := mismatch
      rw [Bool.eq_false_iff]
      intro typed
      obtain ⟨allowed, passes⟩ := compiled.accepts_types_iff.1 typed
      rw [compiled.findings_eq] at mismatch
      have silent := (typePasses_iff_no_mismatch allowed).1 passes
      rw [mismatch] at silent
      exact silent _ List.mem_cons_self rfl rfl
    · exact fun mistyped => (compiled.findings_of_mistyped mistyped).2

end Schema

end

namespace Schema

def wordOrRow : Json :=
  .object [
    ("enum", .array [.string "none"]),
    ("items", .object [("type", .string "string")]),
    ("type", .array [.string "string", .object [
      ("items", .object [("type", .array [.string "string", .string "null"])]),
      ("type", .string "array")]]),
    ("uniqueItems", .bool true)]

def twoNulls : Json := .array [.string "none", .null, .null]

set_option maxRecDepth 4000 in
theorem findings_gate_row :
    (Node.compile wordOrRow).isValid = true ∧
      findings .default wordOrRow twoNulls = findings .default wordOrRow.untyped twoNulls ∧
      (findings .default wordOrRow twoNulls).map (·.kind) =
        [.enumMismatch, .keyword, .typeMismatch, .typeMismatch] ∧
      ∃ message, findings .default wordOrRow (.array [.bool true]) =
        [⟨.typeMismatch, .root, message⟩] := by
  have valid : (Node.compile wordOrRow).isValid = true := rfl
  have typed : accepts .default (wordOrRow.restrict ["type", "disallow"]) twoNulls = true := by
    decide +kernel
  have mistyped :
      accepts .default (wordOrRow.restrict ["type", "disallow"]) (.array [.bool true]) = false := by
    decide +kernel
  obtain ⟨_, _, opened, _⟩ := findings_gate valid .default twoNulls
  obtain ⟨_, _, _, _, closed⟩ := findings_gate valid .default (.array [.bool true])
  exact ⟨valid, opened typed, by decide +kernel, closed.2 mistyped⟩

end Schema

end JsonSchema
