import JsonSchema.Node
import JsonSchema.Pattern.Engine
import JsonSchema.Proofs.Compile.FirstDefect
import JsonSchema.Proofs.Compile.Types

set_option autoImplicit false

namespace JsonSchema

open Schema (Compiles)

inductive Malformed : Json → SchemaError → Prop where
  | name {text : String} (unknown : ¬IsTypeName text) :
      Malformed (.string text) (.unknownType text)
  | shape {e : Json} (text : ∀ name, e ≠ .string name) (object : e.isObject = false) :
      Malformed e .typeElement

section Element

variable {e : Json} {cause : SchemaError}

theorem malformed_string_iff (text : String) :
    Malformed (.string text) cause ↔ ¬IsTypeName text ∧ cause = .unknownType text := by
  constructor
  · intro malformed
    cases malformed with
    | name unknown => exact ⟨unknown, rfl⟩
    | shape other => exact absurd rfl (other text)
  · intro unknown
    obtain ⟨unknown, rfl⟩ := unknown
    exact .name unknown

theorem TypeName.parse_eq_error_iff (text : String) :
    TypeName.parse text = .error cause ↔ Malformed (.string text) cause := by
  rw [malformed_string_iff, ← exists_parse_iff]
  unfold TypeName.parse Kind.parse
  split
  next => simp
  next => cases Kind.ofName? text <;> simp [Except.map, eq_comm]

theorem not_malformed_of_object (object : e.isObject = true) : ¬Malformed e cause := by
  intro malformed
  cases malformed with
  | name => cases object
  | shape _ other => cases object.symm.trans other

theorem parse_eq_error_iff_malformed (e : Json) (cause : SchemaError) :
    TypeElement.parse e = .error cause ↔ Malformed e cause := by
  cases e with
  | string text =>
    rw [← TypeName.parse_eq_error_iff, TypeElement.parse]
    cases TypeName.parse text <;> simp [Except.map]
  | object members =>
    simp [TypeElement.parse, not_malformed_of_object (e := .object members) rfl]
  | _ =>
    constructor
    · intro refused
      cases refused
      exact .shape (by simp) rfl
    · intro malformed
      cases malformed
      rfl

end Element

section

variable [PatternEngine]

inductive BadElement (e : Json) (cause : SchemaError) : Prop where
  | malformed (malformed : Malformed e cause)
  | schema (object : e.isObject = true) (refused : Schema.compile e = .error cause)

theorem badElement_string_iff {cause : SchemaError} (text : String) :
    BadElement (.string text) cause ↔ Malformed (.string text) cause := by
  constructor
  · intro bad
    cases bad with
    | malformed malformed => exact malformed
    | schema object => cases object
  · exact .malformed

theorem badElement_object_iff {e : Json} {cause : SchemaError} (object : e.isObject = true) :
    BadElement e cause ↔ Schema.compile e = .error cause := by
  constructor
  · intro bad
    cases bad with
    | malformed malformed => exact absurd malformed (not_malformed_of_object object)
    | schema _ refused => exact refused
  · exact .schema object

section Array

variable {elements : List Json}

theorem stopsAt_resolveElements (formed : ∀ e ∈ elements, ∀ other, ¬Malformed e other) (place : Nat) :
    StopsAt BadElement elements (Schema.resolveElements place elements) := by
  induction elements generalizing place with
  | nil => exact stopsAt_ok ResolvedTypes.nothing
  | cons e rest ih =>
    obtain ⟨here, later⟩ := List.forall_mem_cons.1 formed
    cases e with
    | string text =>
      rw [Schema.resolveElements]
      refine .cons (fun cause => ?_) fun n => (ih later (place + 1)).bind_pure
      rw [TypeName.parse_eq_error_iff, badElement_string_iff]
    | object members =>
      rw [Schema.resolveElements]
      · exact .cons (fun cause => (badElement_object_iff rfl).symm) fun s =>
          (ih later (place + 1)).bind_pure
      · simp
    | _ => exact absurd (.shape (by simp) rfl) (here .typeElement)

theorem resolve_array_eq_error_iff {cause : SchemaError} :
    (TypeSpec.parse (.array elements)).bind TypeSpec.resolve = .error cause ↔
      First Malformed elements cause ∨
        (∀ e ∈ elements, ∀ other, ¬Malformed e other) ∧ First BadElement elements cause := by
  rw [← Schema.resolve_eq, Schema.resolve]
  have parses : StopsAt Malformed elements (elements.mapM TypeElement.parse) :=
    stopsAt_mapM fun e _ cause => parse_eq_error_iff_malformed e cause
  rw [← parses cause, ← parses.exists_ok_iff]
  cases parsed : elements.mapM TypeElement.parse with
  | error e => simp [bind, Except.bind]
  | ok names =>
    have formed := parses.exists_ok_iff.1 ⟨names, parsed⟩
    simpa [bind, Except.bind] using stopsAt_resolveElements formed 0 cause

/-- An array of types is refused exactly where an element is bad. The error is that of the first
malformed element, and where no element is malformed, that of the first one that does not compile.
So the first bad element has its error told unless a malformed one behind it has another. -/
theorem resolve_array_refused (elements : List Json) :
    let outcome := (TypeSpec.parse (.array elements)).bind TypeSpec.resolve
    ((∃ cause, outcome = .error cause) ↔ ∃ e ∈ elements, ∃ cause, BadElement e cause) ∧
      ∀ cause,
        (outcome = .error cause ↔ First Malformed elements cause ∨
          (∀ e ∈ elements, ∀ other, ¬Malformed e other) ∧ First BadElement elements cause) ∧
        (First BadElement elements cause →
          (outcome = .error cause ↔ ∀ other, First Malformed elements other → other = cause)) := by
  intro outcome
  have refused (cause : SchemaError) : outcome = .error cause ↔ _ := resolve_array_eq_error_iff
  refine ⟨?_, fun cause => ⟨refused cause, fun first => ?_⟩⟩
  · constructor
    · intro failed
      obtain ⟨cause, failed⟩ := failed
      rcases (refused cause).1 failed with first | ⟨_, first⟩
      · obtain ⟨e, member, malformed⟩ := first.exists_mem
        exact ⟨e, member, cause, .malformed malformed⟩
      · obtain ⟨e, member, bad⟩ := first.exists_mem
        exact ⟨e, member, cause, bad⟩
    · intro bad
      rcases exists_first_or_sound Malformed elements with ⟨cause, malformed⟩ | formed
      · exact ⟨cause, (refused cause).2 (.inl malformed)⟩
      · obtain ⟨cause, first⟩ := exists_first_iff.2 bad
        exact ⟨cause, (refused cause).2 (.inr ⟨formed, first⟩)⟩
  · constructor
    · intro failed other malformed
      exact Except.error.inj (((refused other).2 (.inl malformed)).symm.trans failed)
    · intro only
      rcases exists_first_or_sound Malformed elements with ⟨other, malformed⟩ | formed
      · exact (refused cause).2 (.inl (only other malformed ▸ malformed))
      · exact (refused cause).2 (.inr ⟨formed, first⟩)

end Array

end

def twoBadElements : List Json :=
  [.object [("type", .string "pwet")], .number (.integer 42 (by decide))]

theorem first_bad_element_not_told :
    First BadElement twoBadElements (.unknownType "pwet") ∧
      (TypeSpec.parse (.array twoBadElements)).bind TypeSpec.resolve = .error .typeElement ∧
      (Node.compile (.object [("type", .array twoBadElements)])).messages =
        ["non string or schema element in type property array"] := by
  refine ⟨?_, rfl, rfl⟩
  exact first_cons_iff.2 (.inl (.schema rfl rfl))

end JsonSchema
