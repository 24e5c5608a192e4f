import JsonSchema.Proofs.Compile.Form
import JsonSchema.Proofs.Compile.Pruned
import JsonSchema.Proofs.Visit.Fragments
import JsonSchema.Proofs.Visit.Rearranged

set_option autoImplicit false

namespace JsonSchema

namespace Keyword

def about : Kind → List String
  | .integer | .number =>
    ["minimum", "maximum", "exclusiveMinimum", "exclusiveMaximum", "divisibleBy"]
  | .string => ["minLength", "maxLength", "pattern"]
  | .array => ["minItems", "maxItems", "uniqueItems", "items", "additionalItems"]
  | .object => ["properties", "additionalProperties"]
  | .null | .boolean => []

def shown (k : Kind) : List String := "type" :: "disallow" :: "enum" :: about k

theorem closed_shown (k : Kind) : Closed (shown k) := by
  cases k <;> exact ⟨by decide, by decide, by decide⟩

theorem about_number (n : Number) : about (Kind.of (.number n)) = about .number := by
  rw [Kind.of]
  split
  · rfl
  · rfl

end Keyword

open Keyword (vocabulary shown)

namespace Json

def without (names : List String) : Json → Json
  | .object members => .object (members.filter fun m => m.1 ∉ names)
  | v => v

variable (names : List String) (schema : Json)

theorem isObject_without : (schema.without names).isObject = schema.isObject := by
  cases schema <;> rfl

theorem member?_without (name : String) :
    (schema.without names).member? name = if name ∈ names then none else schema.member? name := by
  cases schema with
  | object members =>
    have found := lookup_filter_keys (· ∉ names) name members
    rw [ite_not] at found
    exact found
  | _ => simp [Json.without, member?]

variable {names}

theorem restrict_without {kept : List String} (apart : ∀ name ∈ names, name ∉ kept) :
    (schema.without names).restrict kept = schema.restrict kept := by
  cases schema with
  | object members =>
    rw [Json.without, restrict, restrict, List.filter_filter]
    refine congrArg Json.object (List.filter_congr fun m _ => ?_)
    have free : m.1 ∈ kept → m.1 ∉ names := fun member listed => apart m.1 listed member
    simpa using free
  | _ => rfl

theorem member?_of_member?_without {raw : Json} {name : String} {v : Json}
    (declared : (raw.without names).member? name = some v) : raw.member? name = some v := by
  rw [member?_without] at declared
  split at declared
  · cases declared
  · exact declared

end Json

section

variable [PatternEngine]

section Without

variable {raw : Json} {names : List String}

theorem WellFormed.without (wellFormed : WellFormed raw) (type : "type" ∉ names)
    (disallow : "disallow" ∉ names) : WellFormed (raw.without names) := by
  obtain ⟨form, nested⟩ := wellFormed
  have kinds (k : Kind) : raw.allowedKinds k ↔ (raw.without names).allowedKinds k := by
    refine Json.allowedKinds_congr ?_ ?_ k
    · rw [Json.member?_without, if_neg type]
    · rw [Json.member?_without, if_neg disallow]
  refine .intro ?_ fun position sub inside => ?_
  · refine form.transfer (fun name v declared => ?_) ?_ kinds fun keyword listed v declared => ?_
    · exact ⟨v, Json.member?_of_member?_without declared, .refl v⟩
    · rw [Json.isObject_without]
      exact form.object
    · exact form.counts keyword listed v (Json.member?_of_member?_without declared)
  · exact nested position sub (inside.mono fun _ => Json.member?_of_member?_without)

end Without

namespace Schema

variable {raw : Json} {s : Schema}

theorem messages_restrict_shown (s : Schema) (v : Json) :
    (s.restrict (shown (Kind.of v))).messages v = s.messages v := by
  cases v with
  | null | bool => rfl
  | number n =>
    rw [shown, Keyword.about_number]
    rfl
  | string text => rfl
  | array elements => rfl
  | object members => rfl

theorem at?_restrict_shown (s : Schema) (v : Json) {step : Step} {w : Json}
    (place : (step, w) ∈ v.places) : (s.restrict (shown (Kind.of v))).at? step = s.at? step := by
  cases v with
  | array elements =>
    obtain ⟨i, _, rfl⟩ := (Json.mem_places_array ..).1 place
    rfl
  | object members =>
    obtain ⟨name, _, rfl⟩ := (Json.mem_places_object ..).1 place
    rfl
  | _ => cases place

theorem visit_restrict_shown (o : Options) (s : Schema) (v : Json) (p : Pointer) :
    (s.restrict (shown (Kind.of v))).visit o [] v p = s.visit o [] v p := by
  have inside : (s.restrict (shown (Kind.of v))).inner o [] v p = s.inner o [] v p := by
    rw [inner_eq, inner_eq]
    refine List.flatMap_congr fun x place => ?_
    rw [at?_restrict_shown s v place]
  have own :
      ownDiagnostics o [] (s.restrict (shown (Kind.of v))) v p = ownDiagnostics o [] s v p := by
    rw [ownDiagnostics, ownDiagnostics, messages_restrict_shown]
    simp [Schema.restrict, shown]
  have typed : (s.restrict (shown (Kind.of v))).typePasses o [] v p = s.typePasses o [] v p := by
    simp [typePasses, Schema.restrict, shown]
  have allowed : (s.restrict (shown (Kind.of v))).allowed = s.allowed := by
    simp [Schema.restrict, shown]
  rw [visit_eq, visit_eq, inside, own, typed, allowed, kindMismatch, kindMismatch, allowed]

theorem Compiles.findings_restrict_shown (compiled : Compiles raw s) (o : Options) (v : Json) :
    findings o (raw.restrict (shown (Kind.of v))) v = findings o raw v := by
  rw [(compiled.restrict (Keyword.closed_shown _)).findings_eq, compiled.findings_eq,
    visit_restrict_shown]

theorem Compiles.findings_without (compiled : Compiles raw s) {v : Json} {names : List String}
    (apart : ∀ name ∈ names, name ∉ shown (Kind.of v)) :
    (Node.compile (raw.without names)).isValid = true ∧
      ∀ o, findings o (raw.without names) v = findings o raw v := by
  have kept (name : String) (member : name ∈ shown (Kind.of v)) : name ∉ names :=
    fun listed => apart name listed member
  have wellFormed := (wellFormed_iff.2 ⟨s, compiled⟩).without
    (kept _ (.head _)) (kept _ (.tail _ (.head _)))
  obtain ⟨t, compiled'⟩ := wellFormed_iff.1 wellFormed
  refine ⟨(isValid_compile_iff _).2 ⟨t, compiled'⟩, fun o => ?_⟩
  rw [← compiled'.findings_restrict_shown, ← compiled.findings_restrict_shown,
    Json.restrict_without raw apart]

-- By induction from the schemas inside a document outwards.
theorem indistinct_pruned (raw : Json) : Reads Indistinct raw := by
  induction raw using Subschema.induction with
  | step raw ih =>
    refine (alike_compile_pruned (fun _ _ => Indistinct.allowed) ih).imp fun s t same => ?_
    exact same.parallel.indistinct same.named same.allowed

theorem indistinct_of_pruned_eq {raw raw' : Json} (same : raw.pruned = raw'.pruned) :
    FailsAlike Indistinct (compile raw) (compile raw') := by
  have left := indistinct_pruned raw
  have right := indistinct_pruned raw'
  rw [Reads, same] at left
  rw [Reads] at right
  generalize compile raw = x, compile raw' = y, compile raw'.pruned = z at left right
  cases left with
  | ok related =>
    cases right with
    | ok related' => exact .ok (related.trans related'.symm)
  | error e =>
    cases right with
    | error => exact .error e

end Schema

structure SameOutcome (raw raw' : Json) : Prop where
  valid : (Node.compile raw).isValid = (Node.compile raw').isValid
  messages : (Node.compile raw).messages = (Node.compile raw').messages
  allowed : (Node.compile raw).schema?.map (·.allowed) = (Node.compile raw').schema?.map (·.allowed)
  named : (Node.compile raw).schema?.map (·.named) = (Node.compile raw').schema?.map (·.named)
  report : ∀ o v, findings o raw v = findings o raw' v

theorem findings_of_error {raw : Json} {cause : SchemaError}
    (failed : Schema.compile raw = .error cause) (o : Options) (v : Json) :
    findings o raw v = [⟨.schemaDefect, .root, cause.message⟩] := by
  simp only [findings, Validator.check, Validator.ofSchema, Validator.ofSchema?, Option.map_some,
    Node.compile, failed]

theorem sameOutcome_of_pruned_eq {raw raw' : Json} (same : raw.pruned = raw'.pruned) :
    SameOutcome raw raw' := by
  have outcome := Schema.indistinct_of_pruned_eq same
  generalize left : Schema.compile raw = x, right : Schema.compile raw' = y at outcome
  have messages : (Node.compile raw).messages = (Node.compile raw').messages := by
    rw [Node.messages, Node.messages, Node.compile, Node.compile, left, right]
    cases outcome with
    | ok => rfl
    | error => rfl
  have schemas (raw : Json) : (Node.compile raw).schema? = (Schema.compile raw).toOption := rfl
  cases outcome with
  | @ok s t related =>
    exact {
      valid := by
        rw [Node.isValid, Node.isValid, schemas, schemas, left, right]
        rfl
      messages
      allowed := by
        rw [schemas, schemas, left, right]
        exact congrArg some related.allowed
      named := by
        rw [schemas, schemas, left, right]
        exact congrArg some related.named
      report := fun o v => by
        have compiled : Schema.Compiles raw s := left
        have compiled' : Schema.Compiles raw' t := right
        rw [compiled.findings_eq, compiled'.findings_eq, related.visit] }
  | error cause =>
    exact {
      valid := by rw [Node.isValid, Node.isValid, schemas, schemas, left, right]
      messages
      allowed := by rw [schemas, schemas, left, right]
      named := by rw [schemas, schemas, left, right]
      report := fun o v => by rw [findings_of_error left, findings_of_error right] }

/-- Members with unknown names are inert: documents that are the same without them compile to
schemas of the same kinds that report the same, or fail with the same message. They can be put in
anywhere where a schema stands. In a valid document nothing shows in the report about a value but the
types, the enumeration and the keywords about values of its kind; the rest can be left out. -/
theorem inert_members :
    (∀ raw raw' : Json, raw.pruned = raw'.pruned → SameOutcome raw raw') ∧
    (∀ (context : Context) before name (v : Json) after, name ∉ vocabulary →
      SameOutcome (context.fill (.object (before ++ (name, v) :: after)))
        (context.fill (.object (before ++ after)))) ∧
    ∀ raw, (Node.compile raw).isValid = true → ∀ v names,
      (∀ name ∈ names, name ∉ shown (Kind.of v)) →
        (Node.compile (raw.without names)).isValid = true ∧
          ∀ o, findings o (raw.without names) v = findings o raw v := by
  refine ⟨fun raw raw' => sameOutcome_of_pruned_eq, ?_, ?_⟩
  · intro context before name v after unknown
    exact sameOutcome_of_pruned_eq
      (context.pruned_fill rfl rfl (Json.pruned_insert unknown before v after))
  · intro raw valid v names apart
    obtain ⟨s, compiled⟩ := (isValid_compile_iff raw).1 valid
    exact compiled.findings_without apart

end

def slotSchema : Json :=
  .object [
    ("additionalProperties", .bool false),
    ("maxLength", .number (.integer 17 (by decide))),
    ("minItems", .number (.integer 15 (by decide))),
    ("properties", .object [("name", .object [])]),
    ("required", .bool true)]

def titledSlotSchema : Json :=
  .object [
    ("MinItems", .number (.integer 13 (by decide))),
    ("additionalProperties", .bool false),
    ("maxLength", .number (.integer 17 (by decide))),
    ("minItems", .number (.integer 15 (by decide))),
    ("properties", .object [("name", .object [("minlength", .string "one")])]),
    ("required", .bool true),
    ("title", .array [.null])]

def slot : Json := .array [.null, .string "second"]

set_option maxRecDepth 4000 in
theorem inert_members_slot :
    titledSlotSchema.pruned = slotSchema.pruned ∧ SameOutcome titledSlotSchema slotSchema ∧
      "title" ∉ vocabulary ∧
      (Node.compile (.object [("title", .null), ("type", .string "text")])).messages =
        (Node.compile (.object [("type", .string "text")])).messages ∧
      (Node.compile (.object [("type", .string "text")])).messages ≠ [] ∧
      (Node.compile slotSchema).isValid = true ∧
      slotSchema.without ["maxLength", "additionalProperties", "required"] = .object [
        ("minItems", .number (.integer 15 (by decide))),
        ("properties", .object [("name", .object [])])] ∧
      findings .default (slotSchema.without ["maxLength", "additionalProperties", "required"]) slot =
        findings .default slotSchema slot ∧
      (findings .default slotSchema slot).map (·.message) =
        ["array has too few elements (2, minimum 15)"] := by
  obtain ⟨agree, inserted, others⟩ := inert_members
  have same : titledSlotSchema.pruned = slotSchema.pruned := rfl
  have unknown : "title" ∉ vocabulary := by decide
  have valid : (Node.compile slotSchema).isValid = true := rfl
  have apart : ∀ name ∈ ["maxLength", "additionalProperties", "required"],
      name ∉ shown (Kind.of slot) := by decide
  have titled := inserted [] [] "title" .null [("type", .string "text")] unknown
  exact ⟨same, agree _ _ same, unknown, titled.messages, by decide +kernel, valid, rfl,
    (others slotSchema valid slot _ apart).2 .default, by decide +kernel⟩

end JsonSchema
