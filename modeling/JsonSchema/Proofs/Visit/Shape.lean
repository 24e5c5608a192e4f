import JsonSchema.Checks
import JsonSchema.Proofs.Compile.Grammar
import JsonSchema.Proofs.Locations
import JsonSchema.Proofs.Visit.Compose

set_option autoImplicit false

/-!
How a report is laid out over the document, whatever the options and the added checks: one block of
diagnostics for each location, in the order of the document, with nothing below a location whose
type is wrong or that is too deep. A trial of an alternative walks through the same places once
more, but of what it finds nothing is told.
-/

namespace JsonSchema

/-- The kinds of diagnostics that one location can have together, in their order. -/
inductive BlockKinds : List DiagnosticKind → Prop where
  | tooDeep : BlockKinds [.tooDeep]
  | typeMismatch : BlockKinds [.typeMismatch]
  | keywords (count : Nat) : BlockKinds (List.replicate count .keyword)
  | enumMismatch (count : Nat) : BlockKinds (.enumMismatch :: List.replicate count .keyword)

namespace Diagnostic

-- With such a diagnostic the walk turns back.
def IsFinal (d : Diagnostic) : Prop := d.kind = .typeMismatch ∨ d.kind = .tooDeep

def Bounded (o : Options) (d : Diagnostic) : Prop :=
  d.kind = .tooDeep ∧ d.pointer.depth = o.maxDepth + 1 ∨
    d.kind ≠ .tooDeep ∧ d.pointer.depth ≤ o.maxDepth

end Diagnostic

inductive Shaped (o : Options) : Json → Pointer → List Diagnostic → Prop where
  | intro {v : Json} {p : Pointer} {own : List Diagnostic} {inside : Step → Json → List Diagnostic}
      (placed : ∀ d ∈ own, d.pointer = p) (bounded : ∀ d ∈ own, d.Bounded o)
      (kinds : BlockKinds (own.map (·.kind)))
      (below : ∀ step w, (step, w) ∈ v.places → Shaped o w (p.step step) (inside step w))
      (final : ∀ d ∈ own, d.IsFinal → ∀ step w, (step, w) ∈ v.places → inside step w = []) :
      Shaped o v p (own ++ v.places.flatMap fun x => inside x.1 x.2)

structure LaidOut (o : Options) (v : Json) (found : List Diagnostic) : Prop where
  addressed : ∀ d ∈ found, ∃ w, Json.follow? d.pointer.segments v = some w
  distinct : ((v.locations .root).map Prod.fst).Nodup
  grouped : found = (v.locations .root).flatMap fun x => found.filter (·.pointer = x.1)
  kinds : ∀ p, BlockKinds ((found.filter (·.pointer = p)).map (·.kind))
  final : ∀ d ∈ found, d.IsFinal → ∀ e ∈ found, d.pointer.Above e.pointer → e.pointer = d.pointer
  bounded : ∀ d ∈ found, d.Bounded o

namespace Shaped

variable {o : Options} {v : Json} {p : Pointer} {found : List Diagnostic}

theorem alone_of_nil {own : List Diagnostic} (placed : ∀ d ∈ own, d.pointer = p)
    (bounded : ∀ d ∈ own, d.Bounded o) (kinds : BlockKinds (own.map (·.kind)))
    (below : ∀ step w, (step, w) ∈ v.places → Shaped o w (p.step step) []) : Shaped o v p own := by
  have shaped := @intro o v p own (fun _ _ => []) placed bounded kinds below fun _ _ _ _ _ _ => rfl
  have nothing : v.places.flatMap (fun _ => ([] : List Diagnostic)) = [] :=
    List.flatMap_eq_nil_iff.2 fun _ _ => rfl
  rwa [nothing, List.append_nil] at shaped

theorem nil (o : Options) (v : Json) (p : Pointer) : Shaped o v p [] := by
  induction v using Json.placeInduction generalizing p with
  | step v ih =>
    exact alone_of_nil nofun nofun (.keywords 0) fun step w place => ih step w place (p.step step)

theorem alone {own : List Diagnostic} (placed : ∀ d ∈ own, d.pointer = p)
    (bounded : ∀ d ∈ own, d.Bounded o) (kinds : BlockKinds (own.map (·.kind))) : Shaped o v p own :=
  alone_of_nil placed bounded kinds fun _ w _ => nil o w _

theorem single {d : Diagnostic} (placed : d.pointer = p) (bounded : d.Bounded o)
    (kinds : BlockKinds [d.kind]) : Shaped o v p [d] :=
  alone (by simpa using placed) (by simpa using bounded) kinds

theorem above (shaped : Shaped o v p found) {d : Diagnostic} (member : d ∈ found) :
    p.Above d.pointer := by
  induction shaped with
  | @intro v p own inside placed _ _ _ _ ih =>
    rcases List.mem_append.1 member with own | below
    · rw [placed d own]
      exact .refl p
    · obtain ⟨⟨step, w⟩, place, found⟩ := List.mem_flatMap.1 below
      exact (p.above_step step).trans (ih step w place found)

theorem bounded (shaped : Shaped o v p found) {d : Diagnostic} (member : d ∈ found) :
    d.Bounded o := by
  induction shaped with
  | @intro v p own inside _ bounded _ _ _ ih =>
    rcases List.mem_append.1 member with own | below
    · exact bounded d own
    · obtain ⟨⟨step, w⟩, place, found⟩ := List.mem_flatMap.1 below
      exact ih step w place found

section Filter

variable {own : List Diagnostic} {inside : Step → Json → List Diagnostic}

theorem filter_self (placed : ∀ d ∈ own, d.pointer = p)
    (below : ∀ step w, (step, w) ∈ v.places → Shaped o w (p.step step) (inside step w)) :
    (own ++ v.places.flatMap fun x => inside x.1 x.2).filter (·.pointer = p) = own := by
  have outer : own.filter (·.pointer = p) = own := by
    refine List.filter_eq_self.2 fun d member => ?_
    simpa using placed d member
  have inner : (v.places.flatMap fun x => inside x.1 x.2).filter (·.pointer = p) = [] := by
    refine List.filter_eq_nil_iff.2 fun d member same => ?_
    obtain ⟨⟨step, w⟩, place, found⟩ := List.mem_flatMap.1 member
    have strictly := (below step w place).above found
    rw [of_decide_eq_true same] at strictly
    exact p.not_step_above step strictly
  rw [List.filter_append, outer, inner, List.append_nil]

theorem filter_inside (ordered : v.Ordered) (placed : ∀ d ∈ own, d.pointer = p)
    (below : ∀ step w, (step, w) ∈ v.places → Shaped o w (p.step step) (inside step w))
    {step : Step} {w : Json} (place : (step, w) ∈ v.places) {among : Diagnostic → Bool}
    (aimed : ∀ d, among d = true → (p.step step).Above d.pointer) :
    (own ++ v.places.flatMap fun x => inside x.1 x.2).filter among =
      (inside step w).filter among := by
  have outer : own.filter among = [] := by
    refine List.filter_eq_nil_iff.2 fun d member here => ?_
    have under := aimed d here
    rw [placed d member] at under
    exact p.not_step_above step under
  have others (x : Step × Json) (other : x ∈ v.places) :
      (inside x.1 x.2).filter among =
        if x.1.text = step.text then (inside x.1 x.2).filter among else [] := by
    by_cases same : x.1.text = step.text
    · rw [if_pos same]
    · rw [if_neg same]
      refine List.filter_eq_nil_iff.2 fun d member here => same ?_
      exact ((below x.1 x.2 other).above member).text_eq (aimed d here)
  rw [List.filter_append, outer, List.nil_append, List.filter_flatMap, List.flatMap_congr others]
  exact flatMap_ite_eq ordered.nodup_texts place fun x => (inside x.1 x.2).filter among

theorem filter_at (ordered : v.Ordered) (placed : ∀ d ∈ own, d.pointer = p)
    (below : ∀ step w, (step, w) ∈ v.places → Shaped o w (p.step step) (inside step w))
    {step : Step} {w : Json} (place : (step, w) ∈ v.places) {q : Pointer}
    (aimed : (p.step step).Above q) :
    (own ++ v.places.flatMap fun x => inside x.1 x.2).filter (·.pointer = q) =
      (inside step w).filter (·.pointer = q) := by
  refine filter_inside ordered placed below place fun d here => ?_
  rw [of_decide_eq_true here]
  exact aimed

end Filter

theorem grouped (shaped : Shaped o v p found) (sorted : v.Sorted) :
    found = (v.locations p).flatMap fun x => found.filter (·.pointer = x.1) := by
  induction shaped with
  | @intro v p own inside placed _ _ below _ ih =>
    rw [Json.locations_eq, List.flatMap_cons, filter_self placed below, List.flatMap_assoc]
    congr 1
    refine List.flatMap_congr ?_
    intro x place
    have blocks : (x.2.locations (p.step x.1)).flatMap (fun y =>
        (own ++ v.places.flatMap fun x => inside x.1 x.2).filter (·.pointer = y.1)) =
          (x.2.locations (p.step x.1)).flatMap fun y => (inside x.1 x.2).filter (·.pointer = y.1) :=
      List.flatMap_congr fun y location =>
        filter_at sorted.ordered placed below place (Json.above_of_mem_locations location)
    rw [blocks]
    exact ih x.1 x.2 place (sorted.inside place)

theorem kinds (shaped : Shaped o v p found) (sorted : v.Sorted) (q : Pointer) :
    BlockKinds ((found.filter (·.pointer = q)).map (·.kind)) := by
  induction shaped with
  | @intro v p own inside placed _ kinds below _ ih =>
    by_cases self : q = p
    · rw [self, filter_self placed below]
      exact kinds
    by_cases aimed : ∃ step w, (step, w) ∈ v.places ∧ (p.step step).Above q
    · obtain ⟨step, w, place, aimed⟩ := aimed
      rw [filter_at sorted.ordered placed below place aimed]
      exact ih step w place (sorted.inside place)
    · have nothing :
          (own ++ v.places.flatMap fun x => inside x.1 x.2).filter (·.pointer = q) = [] := by
        refine List.filter_eq_nil_iff.2 fun d member here => ?_
        have here := of_decide_eq_true here
        rcases List.mem_append.1 member with own | inner
        · exact self (here.symm.trans (placed d own))
        · obtain ⟨⟨step, w⟩, place, found⟩ := List.mem_flatMap.1 inner
          exact aimed ⟨step, w, place, here ▸ (below step w place).above found⟩
      rw [nothing]
      exact .keywords 0

theorem final (shaped : Shaped o v p found) (sorted : v.Sorted) {d e : Diagnostic}
    (member : d ∈ found) (final : d.IsFinal) (other : e ∈ found) (lower : d.pointer.Above e.pointer) :
    e.pointer = d.pointer := by
  induction shaped with
  | @intro v p own inside placed _ _ below last ih =>
    rcases List.mem_append.1 member with outer | inner
    · have nothing : (v.places.flatMap fun x => inside x.1 x.2) = [] :=
        List.flatMap_eq_nil_iff.2 fun x place => last d outer final x.1 x.2 place
      rw [nothing, List.append_nil] at other
      rw [placed d outer, placed e other]
    · obtain ⟨⟨step, w⟩, place, found⟩ := List.mem_flatMap.1 inner
      have under := (below step w place).above found
      rcases List.mem_append.1 other with outer | inner'
      · rw [placed e outer] at lower
        exact absurd (under.trans lower) (p.not_step_above step)
      · obtain ⟨⟨step', w'⟩, place', found'⟩ := List.mem_flatMap.1 inner'
        have under' := (below step' w' place').above found'
        -- Both stand below the same step, since the texts of steps are distinct.
        have same := List.inj_on_of_nodup_map sorted.ordered.nodup_texts place place'
          ((under.trans lower).text_eq under')
        cases same
        exact ih step w place (sorted.inside place) found found'

theorem laidOut (shaped : Shaped o v .root found) (sorted : v.Sorted) : LaidOut o v found where
  addressed d member := by
    rw [shaped.grouped sorted] at member
    obtain ⟨⟨q, w⟩, location, here⟩ := List.mem_flatMap.1 member
    obtain ⟨rest, segments, followed⟩ := Json.follow?_of_mem_locations sorted location
    have here := of_decide_eq_true (List.mem_filter.1 here).2
    rw [here, segments]
    exact ⟨w, followed⟩
  distinct := Json.nodup_locations sorted .root
  grouped := shaped.grouped sorted
  kinds := shaped.kinds sorted
  final _ member isFinal _ other lower := shaped.final sorted member isFinal other lower
  bounded _ member := shaped.bounded member

end Shaped

section

variable [PatternEngine]

namespace Schema

variable {o : Options} {checks : List Check}

def enumDiagnostics (s : Schema) (v : Json) (p : Pointer) : List Diagnostic :=
  match s.enumeration with
  | none => []
  | some values =>
    if values.any (·.equals v) then []
    else [⟨.enumMismatch, p, "node does not match any value in the enumeration"⟩]

def keywordTexts (o : Options) (checks : List Check) (s : Schema) (v : Json) (p : Pointer) :
    List String :=
  (if o.structural then s.messages v else []) ++ checks.flatMap fun check => check s v p

theorem ownDiagnostics_eq (s : Schema) (v : Json) (p : Pointer) :
    ownDiagnostics o checks s v p =
      enumDiagnostics s v p ++ (keywordTexts o checks s v p).map (⟨.keyword, p, ·⟩) := by
  rw [ownDiagnostics, keywordTexts, List.append_assoc, List.map_append, List.map_flatMap,
    apply_ite (List.map _)]
  rfl

theorem enumDiagnostics_eq (s : Schema) (v : Json) (p : Pointer) :
    enumDiagnostics s v p = [] ∨ ∃ message, enumDiagnostics s v p = [⟨.enumMismatch, p, message⟩] := by
  unfold enumDiagnostics
  cases s.enumeration with
  | none => exact .inl rfl
  | some values =>
    dsimp only
    split
    · exact .inl rfl
    · exact .inr ⟨_, rfl⟩

theorem blockKinds_ownDiagnostics (s : Schema) (v : Json) (p : Pointer) :
    BlockKinds ((ownDiagnostics o checks s v p).map (·.kind)) := by
  have keywords (texts : List String) :
      (texts.map fun text => (⟨.keyword, p, text⟩ : Diagnostic)).map (·.kind) =
        List.replicate texts.length .keyword := by
    rw [List.map_map]
    exact List.map_const' ..
  rw [ownDiagnostics_eq, List.map_append, keywords]
  rcases enumDiagnostics_eq s v p with silent | ⟨message, mismatch⟩
  · rw [silent]
    exact .keywords _
  · rw [mismatch]
    exact .enumMismatch _

theorem kind_of_mem_ownDiagnostics {s : Schema} {v : Json} {p : Pointer} {d : Diagnostic}
    (member : d ∈ ownDiagnostics o checks s v p) : d.kind = .enumMismatch ∨ d.kind = .keyword := by
  rw [ownDiagnostics_eq, List.mem_append] at member
  rcases member with first | keyword
  · rcases enumDiagnostics_eq s v p with silent | ⟨message, mismatch⟩
    · rw [silent] at first
      cases first
    · rw [mismatch, List.mem_singleton] at first
      exact .inl (first ▸ rfl)
  · obtain ⟨text, _, rfl⟩ := List.mem_map.1 keyword
    exact .inr rfl

theorem not_isFinal_of_mem_ownDiagnostics {s : Schema} {v : Json} {p : Pointer} {d : Diagnostic}
    (member : d ∈ ownDiagnostics o checks s v p) : ¬d.IsFinal := by
  rcases kind_of_mem_ownDiagnostics member with listed | keyword <;>
    simp_all [Diagnostic.IsFinal]

theorem bounded_of_mem_ownDiagnostics {s : Schema} {v : Json} {p : Pointer} {d : Diagnostic}
    (shallow : p.depth ≤ o.maxDepth) (member : d ∈ ownDiagnostics o checks s v p) : d.Bounded o := by
  refine .inr ⟨fun deep => not_isFinal_of_mem_ownDiagnostics member (.inr deep), ?_⟩
  rw [pointer_of_mem_ownDiagnostics member]
  exact shallow

theorem shaped_stepDiagnostics {s : Schema} {p : Pointer} {step : Step} {w : Json}
    (each : ∀ t, s.at? step = some t → Shaped o w (p.step step) (t.visit o checks w (p.step step))) :
    Shaped o w (p.step step) (stepDiagnostics o checks s p step w) := by
  obtain ⟨structural, limit⟩ := o
  rcases stepDiagnostics_eq checks s p structural step w with silent | ⟨t, found, same⟩
  · rw [silent]
    exact .nil _ w _
  · rw [same]
    exact each t found

theorem visit_shaped (s : Schema) (v : Json) (p : Pointer) (within : p.depth ≤ o.maxDepth + 1) :
    Shaped o v p (s.visit o checks v p) := by
  induction s using Schema.induction generalizing v p with
  | step s ih =>
    have outcome := visited o checks s v p
    generalize s.visit o checks v p = found at outcome
    cases outcome with
    | tooDeep deep => exact .single rfl (.inl ⟨rfl, Nat.le_antisymm within deep⟩) .tooDeep
    | kindMismatch shallow => exact .single rfl (.inr ⟨nofun, shallow⟩) .typeMismatch
    | alternativeMismatch shallow => exact .single rfl (.inr ⟨nofun, shallow⟩) .typeMismatch
    | typed shallow =>
      refine .intro (fun _ => pointer_of_mem_ownDiagnostics)
        (fun _ => bounded_of_mem_ownDiagnostics shallow) (blockKinds_ownDiagnostics s v p) ?_ ?_
      · intro step w place
        refine shaped_stepDiagnostics fun t found => ?_
        obtain ⟨position, child⟩ := child_of_at? found
        refine ih position t child w _ ?_
        rw [Pointer.depth_step]
        omega
      · intro d member final
        exact absurd final (not_isFinal_of_mem_ownDiagnostics member)

theorem stepDiagnostics_shaped (o : Options) (checks : List Check) (s : Schema) {p : Pointer}
    (shallow : p.depth ≤ o.maxDepth) (step : Step) (w : Json) :
    Shaped o w (p.step step) (stepDiagnostics o checks s p step w) := by
  apply shaped_stepDiagnostics
  intro t _
  apply visit_shaped
  rw [Pointer.depth_step]
  exact Nat.succ_le_succ shallow

/-- Every report on a document is laid out over it in one block for each location, with the options
and the added checks left open. Every document that is read is sorted, by `Json.sorted_of_read`. -/
theorem report_laidOut {raw : Json} (valid : (Node.compile raw).isValid = true) {v : Json}
    (sorted : v.Sorted) (o : Options) (checks : List Check) :
    LaidOut o v
      ({ Validator.ofSchema raw with options := o, checks := checks }.check v).diagnostics := by
  obtain ⟨s, compiled⟩ := (isValid_compile_iff raw).1 valid
  rw [compiled.check_eq]
  exact (visit_shaped s v .root (Nat.zero_le _)).laidOut sorted

end Schema

end

namespace Schema

def rows : Json := .array [.array [.null]]

theorem sorted_rows : rows.Sorted := by decide

def shelfSchema : Json :=
  .object [("items", .object [
    ("additionalProperties", .object [("items", .object [("items", .object [])])]),
    ("properties", .object [("label", .object [
      ("enum", .array [.string "old"]),
      ("minLength", .number (.integer 5 (by decide)))])]),
    ("type", .string "object")])]

def shelf : Json := .array [.object [("label", .string ""), ("rows", rows)], .null]

def shelfKinds : List DiagnosticKind := [.enumMismatch, .keyword, .keyword, .tooDeep, .typeMismatch]

theorem report_laidOut_shelf :
    (Node.compile shelfSchema).isValid = true ∧ shelf.Sorted ∧
      ∃ report, { Validator.ofSchema shelfSchema with
          options := ⟨true, 2⟩, checks := [Checks.nonEmptyStrings] }.check shelf = report ∧
        LaidOut ⟨true, 2⟩ shelf report.diagnostics ∧
        report.diagnostics.map (·.kind) = shelfKinds := by
  have valid : (Node.compile shelfSchema).isValid = true := rfl
  have sorted : shelf.Sorted := by
    have null : Json.null.Sorted := Json.sorted_of_places_eq_nil rfl
    have label : (Json.string "").Sorted := Json.sorted_of_places_eq_nil rfl
    have row : (Json.object [("label", .string ""), ("rows", rows)]).Sorted :=
      Json.sorted_object (by decide) (by simpa using ⟨label, sorted_rows⟩)
    exact Json.sorted_array (by simpa using ⟨row, null⟩)
  exact ⟨valid, sorted, _, rfl, report_laidOut valid sorted _ _, by decide +kernel⟩

end Schema

end JsonSchema
