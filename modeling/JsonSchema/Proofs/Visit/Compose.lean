import JsonSchema.Proofs.Ordered
import JsonSchema.Proofs.Visit.Verdict

set_option autoImplicit false

namespace JsonSchema

namespace Pointer

def below (segments : List String) (p : Pointer) : Pointer := ⟨segments ++ p.segments⟩

@[simp] theorem depth_below (segments : List String) (p : Pointer) :
    (p.below segments).depth = segments.length + p.depth := by
  simp [depth, below]

theorem step_below (segments : List String) (p : Pointer) (step : Step) :
    (p.below segments).step step = (p.step step).below segments := by
  simp [below, Pointer.step, key]

theorem root_step (step : Step) : root.step step = root.below [step.text] := rfl

end Pointer

namespace Diagnostic

def below (segments : List String) (d : Diagnostic) : Diagnostic :=
  { d with pointer := d.pointer.below segments }

def behind? (segment : String) (d : Diagnostic) : Option Diagnostic :=
  match d.pointer.segments with
  | [] => none
  | first :: rest => if first = segment then some { d with pointer := ⟨rest⟩ } else none

end Diagnostic

theorem filter_isRoot_below (segment : String) (found : List Diagnostic) :
    (found.map (Diagnostic.below [segment])).filter (·.pointer.isRoot) = [] := by
  rw [List.filter_map, List.map_eq_nil_iff, List.filter_eq_nil_iff]
  intro d member
  exact Bool.false_ne_true

theorem filterMap_behind?_below (segment first : String) (found : List Diagnostic) :
    (found.map (Diagnostic.below [first])).filterMap (Diagnostic.behind? segment) =
      if first = segment then found else [] := by
  have behind (d : Diagnostic) : (Diagnostic.behind? segment ∘ Diagnostic.below [first]) d =
      if first = segment then some d else none := rfl
  rw [List.filterMap_map, funext behind]
  by_cases same : first = segment
  · simp [same]
  · simp [same]

section

variable [PatternEngine]

def findings (o : Options) (raw v : Json) : List Diagnostic :=
  ({ Validator.ofSchema raw with options := o }.check v).diagnostics

def findingsAt (o : Options) (raw : Json) (step : Step) (w : Json) : List Diagnostic :=
  ((raw.schemaAt? step).map (findings o · w)).getD []

namespace Schema

variable {raw : Json} {s : Schema} {o : Options}

theorem pointer_of_mem_ownDiagnostics {checks : List Check} {v : Json} {p : Pointer}
    {d : Diagnostic} (member : d ∈ ownDiagnostics o checks s v p) : d.pointer = p := by
  simp only [ownDiagnostics, List.mem_append, List.mem_flatMap] at member
  rcases member with (enumeration | keywords) | ⟨check, _, added⟩
  · cases values : s.enumeration with
    | none => simp [values] at enumeration
    | some listed =>
      simp only [values, List.mem_ite_nil_left, List.mem_singleton] at enumeration
      rw [enumeration.2]
  · simp only [List.mem_ite_nil_right, List.mem_map] at keywords
    obtain ⟨_, message, _, same⟩ := keywords
    rw [← same]
  · obtain ⟨message, _, same⟩ := List.mem_map.1 added
    rw [← same]

theorem ownDiagnostics_below (segments : List String) (v : Json) (p : Pointer) :
    ownDiagnostics o [] s v (p.below segments) =
      (ownDiagnostics o [] s v p).map (.below segments) := by
  unfold ownDiagnostics
  rw [List.map_append, List.map_append]
  refine congrArg₂ (· ++ ·) (congrArg₂ (· ++ ·) ?_ ?_) rfl
  · cases s.enumeration with
    | none => rfl
    | some values =>
      dsimp only
      by_cases listed : values.any (·.equals v) = true
      · rw [if_pos listed, if_pos listed]
        rfl
      · rw [if_neg listed, if_neg listed]
        rfl
  · cases o.structural with
    | false => rfl
    | true =>
      rw [if_pos rfl, if_pos rfl, List.map_map]
      rfl

theorem Compiles.visit_below (compiled : Compiles raw s) (segments : List String) (v : Json)
    (p : Pointer) (within : segments.length + p.depth + v.depth ≤ o.maxDepth) :
    s.visit o [] v (p.below segments) = (s.visit o [] v p).map (.below segments) := by
  induction raw using Subschema.induction generalizing s v p with
  | step raw ih =>
    -- A trial of an alternative is thrown away, but whether it is silent decides the type.
    have typed : s.typePasses o [] v (p.below segments) = s.typePasses o [] v p := by
      rw [Bool.eq_iff_iff, typePasses_iff, typePasses_iff]
      refine or_congr_right (exists_congr fun place => exists_congr fun t => and_congr_right ?_)
      intro member
      obtain ⟨sub, inside, nested⟩ := (compiled.mem_alternatives_iff place t).1 member
      rw [ih _ sub inside nested v p within, List.map_eq_nil_iff]
    have inside : s.inner o [] v (p.below segments) = (s.inner o [] v p).map (.below segments) := by
      rw [inner_eq, inner_eq, List.map_flatMap]
      refine List.flatMap_congr ?_
      intro x place
      obtain ⟨step, w⟩ := x
      have smaller := Json.depth_lt_of_mem_places place
      have room : segments.length + (p.step step).depth + w.depth ≤ o.maxDepth := by
        rw [Pointer.depth_step]
        omega
      have related := compiled.rel_at? step
      generalize applies : raw.schemaAt? step = document, s.at? step = found at related
      cases related with
      | none => rfl
      | some nested =>
        obtain ⟨position, inside⟩ := Json.subschema_of_schemaAt? applies
        have moved := ih position _ inside nested w (p.step step) room
        simpa [Pointer.step_below] using moved
    have shallow : ¬ o.maxDepth < (p.below segments).depth := by
      rw [Pointer.depth_below]
      omega
    have shallow' : ¬ o.maxDepth < p.depth := by omega
    rw [visit_eq, visit_eq, if_neg shallow, if_neg shallow', typed, inside, ownDiagnostics_below]
    cases s.allowed.admits (Kind.of v) with
    | false => rfl
    | true =>
      cases s.typePasses o [] v p with
      | false => rfl
      | true => cases o.structural <;> simp

theorem Compiles.findings_eq (compiled : Compiles raw s) (v : Json) :
    findings o raw v = s.visit o [] v .root := by
  have report := compiled.check_eq (o := o) [] v
  exact congrArg Report.diagnostics report

theorem Compiles.inner_root (compiled : Compiles raw s) {v : Json}
    (within : v.depth ≤ o.maxDepth) :
    s.inner o [] v .root =
      v.places.flatMap fun x => (findingsAt o raw x.1 x.2).map (.below [x.1.text]) := by
  rw [inner_eq]
  refine List.flatMap_congr ?_
  intro x place
  obtain ⟨step, w⟩ := x
  have smaller := Json.depth_lt_of_mem_places place
  have room : [step.text].length + Pointer.root.depth + w.depth ≤ o.maxDepth := by
    rw [List.length_singleton, Pointer.depth_root]
    omega
  have related := compiled.rel_at? step
  unfold findingsAt
  generalize raw.schemaAt? step = document, s.at? step = found at related
  cases related with
  | none => rfl
  | some nested =>
    have moved := nested.visit_below [step.text] w .root room
    simpa [Pointer.root_step, nested.findings_eq] using moved

theorem filter_isRoot_ownDiagnostics (v : Json) :
    (ownDiagnostics o [] s v .root).filter (·.pointer.isRoot) = ownDiagnostics o [] s v .root := by
  rw [List.filter_eq_self]
  intro d member
  rw [pointer_of_mem_ownDiagnostics member]
  rfl

theorem filterMap_behind?_ownDiagnostics (segment : String) (v : Json) :
    (ownDiagnostics o [] s v .root).filterMap (Diagnostic.behind? segment) = [] := by
  rw [List.filterMap_eq_nil_iff]
  intro d member
  rw [Diagnostic.behind?, pointer_of_mem_ownDiagnostics member]
  rfl

/-- Once the type of a value is right, a report is what the value itself gives, then in the order of
the document what the places below it give, each by itself and moved below its step. The members
are in order in every value that is read, by `Json.ordered_of_read`. -/
theorem findings_compose {raw : Json} {s : Schema} (compiled : (Node.compile raw).schema? = some s)
    {v : Json} (ordered : v.Ordered) (allowed : s.allowed.admits (Kind.of v) = true)
    {o : Options} (typed : s.typePasses o [] v .root = true) (structural : o.structural = true)
    (within : v.depth ≤ o.maxDepth) :
    findings o raw v = (findings o raw v).filter (·.pointer.isRoot) ++
        v.places.flatMap (fun x => (findingsAt o raw x.1 x.2).map (.below [x.1.text])) ∧
      ∀ step w, (step, w) ∈ v.places →
        (findings o raw v).filterMap (Diagnostic.behind? step.text) = findingsAt o raw step w := by
  have compiles := compiles_of_schema? compiled
  have shallow : ¬ o.maxDepth < Pointer.root.depth := Nat.not_lt_zero _
  have found : findings o raw v = ownDiagnostics o [] s v .root ++
      v.places.flatMap (fun x => (findingsAt o raw x.1 x.2).map (.below [x.1.text])) := by
    rw [compiles.findings_eq, visit_eq, if_neg shallow, allowed, typed, structural,
      compiles.inner_root within]
    rfl
  constructor
  · have outer : (findings o raw v).filter (·.pointer.isRoot) = ownDiagnostics o [] s v .root := by
      rw [found, List.filter_append, filter_isRoot_ownDiagnostics, List.filter_flatMap,
        List.append_right_eq_self, List.flatMap_eq_nil_iff]
      intro x place
      exact filter_isRoot_below _ _
    rw [outer]
    exact found
  · intro step w place
    rw [found, List.filterMap_append, filterMap_behind?_ownDiagnostics, List.nil_append,
      List.filterMap_flatMap]
    simp only [filterMap_behind?_below]
    exact flatMap_ite_eq ordered.nodup_texts place fun x => findingsAt o raw x.1 x.2

end Schema

end

namespace Schema

def labelSchema : Json := .object [("type", .string "string")]

def tagsSchema : Json := .object [("items", labelSchema)]

def labelledSchema : Json :=
  .object [
    ("additionalProperties", labelSchema),
    ("properties", .object [("tags", tagsSchema)])]

def tags : Json := .array [.string "new", .null]

def labelled : Json := .object [("name", .bool true), ("tags", tags)]

set_option maxRecDepth 4000 in
theorem findings_compose_labelled :
    ∃ s, (Node.compile labelledSchema).schema? = some s ∧ labelled.Ordered ∧
      s.allowed.admits (Kind.of labelled) = true ∧
      s.typePasses .default [] labelled .root = true ∧ labelled.depth ≤ Options.default.maxDepth ∧
      (findings .default labelledSchema labelled).filterMap (Diagnostic.behind? "tags") =
        findings .default tagsSchema tags ∧
      (findings .default labelledSchema labelled).length = 2 := by
  have compiled : ∃ s, (Node.compile labelledSchema).schema? = some s ∧
      s.allowed.admits (Kind.of labelled) = true ∧
      s.typePasses .default [] labelled .root = true := ⟨_, rfl, rfl, rfl⟩
  obtain ⟨s, compiled, allowed, typed⟩ := compiled
  have ordered : labelled.Ordered := by
    intro members same
    cases same
    decide
  have within : labelled.depth ≤ Options.default.maxDepth := by decide
  have composed := (findings_compose compiled ordered allowed typed rfl within).2
  exact ⟨s, compiled, ordered, allowed, typed, within,
    composed (.key "tags") tags (.tail _ (.head _)), by decide +kernel⟩

end Schema

end JsonSchema
