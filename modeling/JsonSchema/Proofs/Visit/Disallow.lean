import JsonSchema.Proofs.Compile.Disallow
import JsonSchema.Proofs.Visit.Shape
import JsonSchema.Proofs.Visit.Union

set_option autoImplicit false

namespace JsonSchema

section

variable [PatternEngine]

def refusal (kind : Kind) (listed : TypeSet) : Diagnostic :=
  ⟨.typeMismatch, .root, "node is of type " ++ kind.name ++ ", expected one of " ++ listed.write⟩

namespace Schema

variable {raw : Json} {s : Schema} {o : Options} {v : Json}

theorem visit_of_refused (refused : s.allowed.admits (Kind.of v) = false) :
    s.visit o [] v .root = [refusal (Kind.of v) s.allowed] :=
  (Visited.kindMismatch (Nat.zero_le _) refused).eq

theorem visit_agree {r : Json} {allowed named : TypeSet}
    (admits : allowed.admits (Kind.of v) = s.allowed.admits (Kind.of v))
    (grants : named.admits (Kind.of v) = s.named.admits (Kind.of v)) :
    visit o [] { s with raw := r, allowed := allowed, named := named } v .root =
        s.visit o [] v .root ∨
      visit o [] { s with raw := r, allowed := allowed, named := named } v .root =
          [refusal (Kind.of v) allowed] ∧
        s.visit o [] v .root = [refusal (Kind.of v) s.allowed] := by
  cases kind : s.allowed.admits (Kind.of v) with
  | false => exact .inr ⟨visit_of_refused (admits.trans kind), visit_of_refused kind⟩
  | true =>
    left
    rw [visit_eq, visit_eq]
    dsimp only
    rw [admits, kind, typePasses, typePasses, grants]
    rfl

theorem typePasses_iff_no_mismatch (allowed : s.allowed.admits (Kind.of v) = true) :
    s.typePasses o [] v .root = true ↔
      ∀ d ∈ s.visit o [] v .root, d.kind = .typeMismatch → d.pointer ≠ .root := by
  have shallow : Pointer.root.depth ≤ o.maxDepth := Nat.zero_le _
  cases typed : s.typePasses o [] v .root with
  | false =>
    rw [(Visited.alternativeMismatch shallow allowed typed).eq]
    simp [alternativeMismatch]
  | true =>
    rw [(Visited.typed shallow allowed typed).eq]
    simp only [true_iff]
    intro d member mismatch here
    rcases List.mem_append.1 member with own | inside
    · rcases kind_of_mem_ownDiagnostics own with listed | keyword <;> simp_all
    · obtain ⟨⟨step, w⟩, _, found⟩ := List.mem_flatMap.1 inside
      have below := (stepDiagnostics_shaped o [] s shallow step w).above found
      rw [here] at below
      exact Pointer.root.not_step_above step below

section Kinds

variable (compiled : Compiles raw s)
include compiled

theorem Compiles.admits_iff_without (v : Json) : s.allowed.admits (Kind.of v) = true ↔
    (raw.declaredKinds.without raw.disallowedKinds).Admits (Kind.of v) := by
  rw [TypeSet.admits_iff, Kinds.admits_congr compiled.allowed_iff, Json.allowedKinds]

theorem Compiles.grants_iff_without (v : Json) : s.named.admits (Kind.of v) = true ↔
    (raw.namedKinds.without raw.disallowedKinds).Admits (Kind.of v) := by
  rw [TypeSet.admits_iff, Kinds.admits_congr compiled.named_iff, Json.grantedKinds]

theorem Compiles.findings_of_taken (taken : raw.disallowedKinds (Kind.of v) ∧ Kind.of v ≠ .integer ∨
    Kind.of v = .integer ∧ raw.disallowedKinds .number) :
    findings o raw v = [refusal (Kind.of v) s.allowed] := by
  rw [compiled.findings_eq]
  refine visit_of_refused (Bool.eq_false_iff.2 fun admitted => ?_)
  rw [compiled.admits_iff_without] at admitted
  rcases taken with ⟨disallowed, other⟩ | ⟨integer, numbers⟩
  · exact ((Kinds.admits_without_of_ne other).1 admitted).2 disallowed
  · rw [integer, Kinds.admits_without_integer] at admitted
    exact admitted.1 numbers

theorem Compiles.findings_of_kept (kept : ¬raw.disallowedKinds (Kind.of v))
    (numbers : ¬(Kind.of v = .integer ∧ raw.disallowedKinds .number)) :
    findings o (raw.erase "disallow") v = findings o raw v ∨ ∃ listed listed',
      findings o (raw.erase "disallow") v = [refusal (Kind.of v) listed] ∧
        findings o raw v = [refusal (Kind.of v) listed'] := by
  obtain ⟨allowed, named, erased⟩ := compiled.exists_erase
  have admits : allowed.admits (Kind.of v) = s.allowed.admits (Kind.of v) := by
    rw [Bool.eq_iff_iff, compiled.admits_iff_without, Kinds.admits_without_iff_of_kept kept numbers,
      TypeSet.admits_iff, Kinds.admits_congr erased.allowed_iff,
      Kinds.admits_congr Json.allowedKinds_erase]
  have grants : named.admits (Kind.of v) = s.named.admits (Kind.of v) := by
    rw [Bool.eq_iff_iff, compiled.grants_iff_without, Kinds.admits_without_iff_of_kept kept numbers,
      TypeSet.admits_iff, Kinds.admits_congr erased.named_iff,
      Kinds.admits_congr Json.grantedKinds_erase]
  rw [compiled.findings_eq, erased.findings_eq]
  refine (visit_agree admits grants).imp_right fun refused => ?_
  exact ⟨allowed, s.allowed, refused⟩

-- Integers without their own kind are looked at as numbers.
theorem Compiles.typePasses_of_integer (integer : Kind.of v = .integer)
    (taken : raw.disallowedKinds .integer) (numbers : ¬raw.disallowedKinds .number) :
    s.typePasses o [] v .root = true ↔ raw.namedKinds .number ∨
      ∃ place sub, Subschema raw (.alternative place) sub ∧ accepts o sub v = true := by
  have alternatives : (∃ place t, (place, t) ∈ s.alternatives ∧ t.visit o [] v .root = []) ↔
      ∃ place sub, Subschema raw (.alternative place) sub ∧ accepts o sub v = true := by
    apply compiled.exists_alternative_iff
    intro place sub t inside nested
    exact (nested.accepts_iff v).symm
  rw [typePasses_iff, alternatives, compiled.grants_iff_without, integer,
    Kinds.admits_without_integer]
  simp [taken, numbers]

end Kinds

/-- What `disallow` does to a report, by the kind of the value: a disallowed kind is refused, with
one mismatch; for a kind that is not taken away the report is that of the schema without the
keyword; and where integers are taken away but numbers are not, an integer needs a type that speaks
of numbers. A schema in `disallow` is as good as the names of the kinds it allows. -/
theorem findings_disallow {raw : Json} (valid : (Node.compile raw).isValid = true) (o : Options)
    (v : Json) :
    (Node.compile (raw.erase "disallow")).isValid = true ∧
    (raw.disallowedKinds (Kind.of v) ∧ Kind.of v ≠ .integer ∨
        Kind.of v = .integer ∧ raw.disallowedKinds .number →
      accepts o raw v = false ∧
        ∃ message, findings o raw v = [⟨.typeMismatch, .root, message⟩]) ∧
    (¬raw.disallowedKinds (Kind.of v) → ¬(Kind.of v = .integer ∧ raw.disallowedKinds .number) →
      accepts o (raw.erase "disallow") v = accepts o raw v ∧
        (findings o (raw.erase "disallow") v = findings o raw v ∨ ∃ listed listed',
          findings o (raw.erase "disallow") v = [refusal (Kind.of v) listed] ∧
            findings o raw v = [refusal (Kind.of v) listed'])) ∧
    (Kind.of v = .integer → raw.disallowedKinds .integer → ¬raw.disallowedKinds .number →
      (¬raw.declaredKinds .number → accepts o raw v = false) ∧
      (raw.declaredKinds .number →
        ((∀ d ∈ findings o raw v, d.kind = .typeMismatch → d.pointer ≠ .root) ↔
          raw.namedKinds .number ∨
            ∃ place sub, Subschema raw (.alternative place) sub ∧ accepts o sub v = true))) ∧
    (Node.compile raw.spellDisallow).isValid = true ∧
      findings o raw.spellDisallow v = findings o raw v := by
  obtain ⟨s, compiled⟩ := (isValid_compile_iff raw).1 valid
  have passed (raw : Json) : accepts o raw v = (findings o raw v).isEmpty := rfl
  refine ⟨?erased, ?taken, ?kept, ?integers, ?spelled⟩
  case erased =>
    obtain ⟨_, _, erased⟩ := compiled.exists_erase
    exact (isValid_compile_iff _).2 ⟨_, erased⟩
  case taken =>
    intro taken
    rw [passed, compiled.findings_of_taken taken]
    exact ⟨rfl, _, rfl⟩
  case kept =>
    intro kept numbers
    have reports := compiled.findings_of_kept (o := o) kept numbers
    refine ⟨?_, reports⟩
    rw [passed, passed]
    rcases reports with same | ⟨_, _, erased, refused⟩
    · rw [same]
    · rw [erased, refused]
      rfl
  case integers =>
    intro integer taken numbers
    have admitted : s.allowed.admits (Kind.of v) = true ↔ raw.declaredKinds .number := by
      rw [compiled.admits_iff_without, integer, Kinds.admits_without_integer]
      simp [taken, numbers]
    constructor
    · intro undeclared
      have refused := Bool.eq_false_iff.2 (mt admitted.1 undeclared)
      rw [passed, compiled.findings_eq, visit_of_refused refused]
      rfl
    · intro declared
      rw [compiled.findings_eq, ← typePasses_iff_no_mismatch (admitted.2 declared)]
      exact compiled.typePasses_of_integer integer taken numbers
  case spelled =>
    have spelled := compiled.spellDisallow
    refine ⟨(isValid_compile_iff _).2 ⟨_, spelled⟩, ?_⟩
    rw [compiled.findings_eq, spelled.findings_eq]
    rcases visit_agree (s := s) (o := o) (v := v) (r := raw.spellDisallow) rfl rfl with
      same | ⟨refused, refused'⟩
    · exact same
    · exact refused.trans refused'.symm

end Schema

end

namespace Schema

-- A string, or a number from ten on; integers are taken away, but not as numbers.
def measureSchema : Json :=
  .object [
    ("disallow", .array [.string "null", .object [("type", .string "integer")]]),
    ("type", .array [.string "string", .object [
      ("minimum", .number (.integer 10 (by decide))),
      ("type", .string "number")]])]

def twelve : Json := .number (.integer 12 (by decide))

theorem findings_disallow_measure :
    (Node.compile measureSchema).isValid = true ∧
      measureSchema.disallowedKinds .null ∧ accepts .default measureSchema .null = false ∧
      ¬measureSchema.disallowedKinds .string ∧
      accepts .default (measureSchema.erase "disallow") (.string "") =
        accepts .default measureSchema (.string "") ∧
      measureSchema.disallowedKinds .integer ∧ ¬measureSchema.disallowedKinds .number ∧
      measureSchema.declaredKinds .number ∧ ¬measureSchema.namedKinds .number ∧
      (∃ place sub, Subschema measureSchema (.alternative place) sub ∧
        accepts .default sub twelve = true) ∧
      measureSchema.spellDisallow.member? "disallow" =
        some (.array [.string "null", .string "integer"]) ∧
      findings .default measureSchema.spellDisallow twelve =
        findings .default measureSchema twelve := by
  obtain ⟨s, compiled, strings, numbers⟩ : ∃ s, Compiles measureSchema s ∧
      s.allowed.kinds .string ∧ s.allowed.kinds .number := ⟨_, rfl, rfl, rfl⟩
  have valid : (Node.compile measureSchema).isValid = true := rfl
  rw [compiled.allowed_iff, Json.allowedKinds] at strings numbers
  have null : measureSchema.disallowedKinds .null := by
    rw [Json.disallowedKinds]
    exact .inl ⟨_, rfl, "null", .head _, .inr rfl⟩
  have integer : measureSchema.disallowedKinds .integer := by
    obtain ⟨t, nested, integers⟩ : ∃ t, Compiles (.object [("type", .string "integer")]) t ∧
        t.allowed.kinds .integer := ⟨_, rfl, rfl⟩
    rw [Json.disallowedKinds]
    exact .inr ⟨1, _, .disallowed rfl rfl rfl, (nested.allowed_iff _).1 integers⟩
  have unnamed : ¬measureSchema.namedKinds .number := by
    intro named
    rcases named with absent | ⟨value, declared, names⟩
    · cases absent
    · cases declared
      obtain ⟨text, member, names⟩ := names
      obtain rfl : text = "string" := by simpa using member
      rcases names with any | number
      · exact absurd any (by decide)
      · exact absurd number (by decide)
  have silent : findings .default measureSchema twelve = [] := by decide +kernel
  obtain ⟨_, taken, _⟩ := findings_disallow valid .default .null
  obtain ⟨_, _, kept, _⟩ := findings_disallow valid .default (.string "")
  obtain ⟨_, _, _, integers, _, spelled⟩ := findings_disallow valid .default twelve
  have refused := (taken (.inl ⟨null, by decide⟩)).1
  have same := (kept strings.2.1 (by simp [Kind.of])).1
  have passes := ((integers rfl integer numbers.2.1).2 numbers.1).1 (by simp [silent])
  exact ⟨valid, null, refused, strings.2.1, same, integer, numbers.2.1, numbers.1, unnamed,
    passes.resolve_left unnamed, by rfl, spelled⟩

end Schema

end JsonSchema
