import JsonSchema.Proofs.Compile.Grammar
import JsonSchema.Proofs.Visit.Compose

set_option autoImplicit false

namespace JsonSchema

namespace Json

def HasOnlyTypes (schema : Json) : Prop :=
  ∀ name, name ≠ "type" → name ≠ "disallow" → schema.member? name = none

def ofType (type : Json) : Json := .object [("type", type)]

def standAlone (element : Json) : Json := if element.isObject then element else ofType element

theorem hasOnlyTypes_ofType (type : Json) : (ofType type).HasOnlyTypes := by
  intro name other _
  have different : (name == "type") = false := by simpa using other
  simp [ofType, List.lookup_cons, different]

theorem alternative_ofType_iff (type : Json) (place : Nat) (sub : Json) :
    Subschema (ofType type) (.alternative place) sub ↔
      ∃ elements, type = .array elements ∧ elements[place]? = some sub ∧ sub.isObject = true := by
  constructor
  · intro inside
    cases inside with
    | alternative declared found object =>
      cases declared
      exact ⟨_, rfl, found, object⟩
  · intro element
    obtain ⟨elements, rfl, found, object⟩ := element
    exact .alternative rfl found object

theorem grantedKinds_ofType_iff (type : Json) (k : Kind) :
    (ofType type).grantedKinds k ↔ type.names k := by
  rw [grantedKinds, Kinds.without_iff_of_empty (not_disallowedKinds_of_absent rfl)]
  simp [namedKinds, ofType]

theorem allowedKinds_ofType_iff (type : Json) (k : Kind) :
    (ofType type).allowedKinds k ↔ type.names k ∨
      ∃ place sub, ∃ _ : Subschema (ofType type) (.alternative place) sub, sub.allowedKinds k := by
  rw [allowedKinds, Kinds.without_iff_of_empty (not_disallowedKinds_of_absent rfl), declaredKinds]
  simp [namedKinds, ofType]

theorem HasOnlyTypes.hasNoKeywords {schema : Json} (only : schema.HasOnlyTypes) :
    schema.HasNoKeywords := by
  intro name other
  simp only [List.mem_cons, List.not_mem_nil, or_false, not_or] at other
  exact only name other.1 other.2.1

end Json

section

variable [PatternEngine]

def accepts (o : Options) (raw v : Json) : Bool :=
  ({ Validator.ofSchema raw with options := o }.check v).passed

namespace Schema

variable {raw : Json} {s : Schema} {o : Options}

theorem Compiles.accepts_iff (compiled : Compiles raw s) (v : Json) :
    accepts o raw v = true ↔ s.visit o [] v .root = [] := by
  rw [← compiled.findings_eq]
  exact Report.passed_iff _

theorem Compiles.ownDiagnostics_eq_nil_of_onlyTypes (compiled : Compiles raw s)
    (only : raw.HasOnlyTypes) (v : Json) (p : Pointer) : ownDiagnostics o [] s v p = [] := by
  obtain ⟨declared, disallowed, parts⟩ := compiles_iff.1 compiled
  have enumeration := parts.enumeration
  have silent := (compiled.messages_eq_nil_iff v).2 (only.hasNoKeywords.fits v)
  rw [only "enum" (by decide) (by decide)] at enumeration
  generalize listed : s.enumeration = values at enumeration
  cases enumeration with
  | none => simp [ownDiagnostics, listed, silent]

theorem Compiles.inner_eq_nil_of_onlyTypes (compiled : Compiles raw s) (only : raw.HasOnlyTypes)
    (v : Json) (p : Pointer) : s.inner o [] v p = [] :=
  compiled.inner_eq_nil only.hasNoKeywords.schemaAt?_eq_none v p

theorem Compiles.visit_of_onlyTypes (compiled : Compiles raw s) (only : raw.HasOnlyTypes) (v : Json)
    {p : Pointer} (shallow : p.depth ≤ o.maxDepth) :
    s.visit o [] v p = [] ∨ ∃ message, s.visit o [] v p = [⟨.typeMismatch, p, message⟩] := by
  have silent (allowed : s.allowed.admits (Kind.of v) = true)
      (typed : s.typePasses o [] v p = true) : s.visit o [] v p = [] :=
    (visit_eq_nil_iff ..).2 ⟨shallow, allowed, typed,
      compiled.ownDiagnostics_eq_nil_of_onlyTypes only v p,
      fun _ => compiled.inner_eq_nil_of_onlyTypes only v p⟩
  have outcome := visited o [] s v p
  generalize s.visit o [] v p = found at outcome silent
  cases outcome with
  | tooDeep deep => exact absurd deep (Nat.not_lt.2 shallow)
  | kindMismatch => exact .inr ⟨_, rfl⟩
  | alternativeMismatch => exact .inr ⟨_, rfl⟩
  | typed _ allowed typed => exact .inl (silent allowed typed)

theorem Compiles.admits_of_typePasses {type : Json} (compiled : Compiles (.ofType type) s) {v : Json}
    {p : Pointer} (passed : s.typePasses o [] v p = true) : s.allowed.admits (Kind.of v) = true := by
  rw [TypeSet.admits_iff]
  rcases (typePasses_iff ..).1 passed with granted | ⟨place, t, member, silent⟩
  · exact ((TypeSet.admits_iff ..).1 granted).imp (compiled.named_le _)
      (And.imp_right (compiled.named_le _))
  · obtain ⟨sub, inside, nested⟩ := (compiled.mem_alternatives_iff place t).1 member
    have admitted := (TypeSet.admits_iff ..).1 ((visit_eq_nil_iff ..).1 silent).2.1
    have united (k : Kind) (kind : t.allowed.kinds k) : s.allowed.kinds k := by
      rw [compiled.allowed_iff, Json.allowedKinds_ofType_iff]
      exact .inr ⟨place, sub, inside, (nested.allowed_iff k).1 kind⟩
    exact admitted.imp (united _) (And.imp_right (united _))

theorem accepts_ofType_iff {type : Json} (compiled : Compiles (.ofType type) s) (v : Json) :
    accepts o (.ofType type) v = true ↔ type.names.Admits (Kind.of v) ∨
      ∃ place sub, Subschema (.ofType type) (.alternative place) sub ∧ accepts o sub v = true := by
  have only := Json.hasOnlyTypes_ofType type
  have named : s.named.admits (Kind.of v) = true ↔ type.names.Admits (Kind.of v) := by
    rw [TypeSet.admits_iff, Kinds.admits_congr compiled.named_iff,
      Kinds.admits_congr (Json.grantedKinds_ofType_iff type)]
  have alternatives : (∃ place t, (place, t) ∈ s.alternatives ∧ t.visit o [] v .root = []) ↔
      ∃ place sub, Subschema (.ofType type) (.alternative place) sub ∧ accepts o sub v = true := by
    apply compiled.exists_alternative_iff
    intro place sub t inside nested
    exact (nested.accepts_iff v).symm
  rw [compiled.accepts_iff, visit_eq_nil_iff, compiled.ownDiagnostics_eq_nil_of_onlyTypes only,
    compiled.inner_eq_nil_of_onlyTypes only, ← named, ← alternatives, ← typePasses_iff]
  constructor
  · intro silent
    exact silent.2.2.1
  · intro passed
    exact ⟨Nat.zero_le _, compiled.admits_of_typePasses passed, passed, rfl, fun _ => rfl⟩

theorem exists_compiles_ofType_name {text : String} (named : IsTypeName text) :
    ∃ s, Compiles (.ofType (.string text)) s := by
  obtain ⟨n, parsed⟩ := (TypeName.exists_parse_iff text).2 named
  have inhabited : ((TypeSet.ofName n).without .empty).isEmpty = false := by
    cases n with
    | any => rfl
    | kind k => cases k <;> rfl
  rw [Json.ofType]
  simp only [Compiles, compile, typesIn, resolve, parsed]
  change ∃ s, (if ((TypeSet.ofName n).without .empty).isEmpty = true then _ else _) = _
  rw [inhabited]
  exact ⟨_, rfl⟩

theorem accepts_ofType_name_iff {text : String} (named : IsTypeName text) (v : Json) :
    accepts o (.ofType (.string text)) v = true ↔ Kinds.Admits (Names text) (Kind.of v) := by
  obtain ⟨s, compiled⟩ := exists_compiles_ofType_name named
  rw [accepts_ofType_iff compiled]
  constructor
  · intro passed
    rcases passed with granted | ⟨place, sub, inside, _⟩
    · exact granted
    · obtain ⟨elements, array, _⟩ := (Json.alternative_ofType_iff ..).1 inside
      cases array
  · intro granted
    exact .inl granted

theorem Compiles.elements_ofType {elements : List Json}
    (compiled : Compiles (.ofType (.array elements)) s) {e : Json} (member : e ∈ elements) :
    (∃ text, e = .string text ∧ IsTypeName text) ∨ e.isObject = true := by
  obtain ⟨declared, disallowed, parts⟩ := compiles_iff.1 compiled
  rcases exists_areTypes_iff.1 ⟨declared, parts.type⟩ _ rfl with ⟨text, same, _⟩ | ⟨_, same, each⟩
  · cases same
  · cases same
    rcases each e member with named | ⟨t, nested⟩
    · exact .inl named
    · exact .inr nested.isObject

theorem Compiles.accepts_union_iff {elements : List Json}
    (compiled : Compiles (.ofType (.array elements)) s) (v : Json) :
    accepts o (.ofType (.array elements)) v = true ↔
      ∃ e ∈ elements, accepts o e.standAlone v = true := by
  rw [accepts_ofType_iff compiled]
  constructor
  · intro passed
    rcases passed with granted | ⟨place, sub, inside, passed⟩
    · have element : ∃ text, .string text ∈ elements ∧ Kinds.Admits (Names text) (Kind.of v) := by
        rcases granted with ⟨text, member, names⟩ | ⟨integer, text, member, names⟩
        · exact ⟨text, member, .inl names⟩
        · exact ⟨text, member, .inr ⟨integer, names⟩⟩
      obtain ⟨text, member, admits⟩ := element
      refine ⟨_, member, ?_⟩
      rcases compiled.elements_ofType member with ⟨_, same, named⟩ | object
      · cases same
        exact (accepts_ofType_name_iff named v).2 admits
      · cases object
    · obtain ⟨_, same, found, object⟩ := (Json.alternative_ofType_iff ..).1 inside
      cases same
      refine ⟨sub, List.mem_of_getElem? found, ?_⟩
      rw [Json.standAlone, if_pos object]
      exact passed
  · intro passed
    obtain ⟨e, member, passed⟩ := passed
    rcases compiled.elements_ofType member with ⟨text, rfl, named⟩ | object
    · have admits := (accepts_ofType_name_iff named v).1 passed
      exact .inl (admits.imp (fun names => ⟨text, member, names⟩)
        (And.imp_right fun names => ⟨text, member, names⟩))
    · rw [Json.standAlone, if_pos object] at passed
      obtain ⟨place, found⟩ := List.mem_iff_getElem?.1 member
      exact .inr ⟨place, e, (Json.alternative_ofType_iff ..).2 ⟨_, rfl, found, object⟩, passed⟩

/-- A `type` array is the union of its elements, whatever the order in which the walk tests them.
A value that passes none of them gets one diagnostic, and what the trials found is not told. -/
theorem accepts_type_array {elements : List Json}
    (valid : (Node.compile (.ofType (.array elements))).isValid = true) (v : Json) (o : Options) :
    (accepts o (.ofType (.array elements)) v = true ↔
        ∃ e ∈ elements, accepts o e.standAlone v = true) ∧
      (accepts o (.ofType (.array elements)) v = false →
        ∃ message, findings o (.ofType (.array elements)) v = [⟨.typeMismatch, .root, message⟩]) ∧
      ∀ sub, sub.isObject = true → elements = [sub] →
        accepts o (.ofType (.array elements)) v = accepts o sub v := by
  obtain ⟨s, compiled⟩ := (isValid_compile_iff _).1 valid
  refine ⟨compiled.accepts_union_iff v, ?_, ?_⟩
  · intro rejected
    rw [compiled.findings_eq]
    have only := Json.hasOnlyTypes_ofType (.array elements)
    refine (compiled.visit_of_onlyTypes only v (Nat.zero_le _)).resolve_left ?_
    intro silent
    rw [(compiled.accepts_iff v).2 silent] at rejected
    cases rejected
  · intro sub object single
    subst single
    rw [Bool.eq_iff_iff, compiled.accepts_union_iff]
    simp [Json.standAlone, object]

end Schema

end

namespace Schema

def shortElements : List Json :=
  [.string "integer", .object [("type", .array [.string "null", .object [
    ("maxLength", .number (.integer 3 (by decide))),
    ("type", .string "string")]])]]

theorem accepts_type_array_short :
    (Node.compile (.ofType (.array shortElements))).isValid = true ∧
      accepts .default (.ofType (.array shortElements)) (.string "abc") = true ∧
      ∃ message, findings .default (.ofType (.array shortElements)) (.string "abcd") =
        [⟨.typeMismatch, .root, message⟩] := by
  have valid : (Node.compile (.ofType (.array shortElements))).isValid = true := rfl
  refine ⟨valid, ?_, ?_⟩
  · refine (accepts_type_array valid _ _).1.2 ⟨_, .tail _ (.head _), ?_⟩
    decide +kernel
  · refine (accepts_type_array valid _ _).2.1 ?_
    decide +kernel

end Schema

end JsonSchema
