import JsonSchema.Proofs.Visit.Limit

set_option autoImplicit false

namespace JsonSchema

/-- The places that a walk comes to when nothing but a wrong type stops it, told from the documents:
each value on the way is of a kind that its schema allows, and a schema applies at each step. -/
inductive Reached : Json → Json → Pointer → Pointer → Prop where
  | here {schema v : Json} {p : Pointer} : Reached schema v p p
  | inside {schema sub v w : Json} {p q : Pointer} {step : Step}
      (typed : schema.allowedKinds.Admits (Kind.of v)) (place : (step, w) ∈ v.places)
      (applies : schema.schemaAt? step = some sub) (below : Reached sub w (p.step step) q) :
      Reached schema v p q

def truncatedAt (limit : Nat) (full : List Diagnostic) (reached : Pointer → Prop)
    [DecidablePred reached] (q : Pointer) : List Diagnostic :=
  if q.depth ≤ limit then full.filter (·.pointer = q)
  else if q.depth = limit + 1 ∧ reached q then [Schema.depthDiagnostic ⟨true, limit⟩ q]
  else []

namespace Pointer

theorem Above.depth_le {p q : Pointer} (above : p.Above q) : p.depth ≤ q.depth := above.length_le

theorem Above.ne_of_step {p q : Pointer} {step : Step} (below : (p.step step).Above q) : q ≠ p := by
  rintro rfl
  exact not_step_above q step below

end Pointer

theorem Json.depth_le_of_mem_locations {v w : Json} {p q : Pointer}
    (location : (q, w) ∈ v.locations p) : q.depth ≤ p.depth + v.depth := by
  induction v using Json.placeInduction generalizing p with
  | step v ih =>
    rw [locations_eq] at location
    rcases List.mem_cons.1 location with same | below
    · cases same
      exact Nat.le_add_right _ _
    · obtain ⟨⟨step, u⟩, place, inside⟩ := List.mem_flatMap.1 below
      have smaller := depth_lt_of_mem_places place
      have deeper := ih step u place inside
      rw [Pointer.depth_step] at deeper
      omega

namespace Reached

variable {schema v w : Json} {p q : Pointer} {step : Step}

theorem above (reached : Reached schema v p q) : p.Above q := by
  induction reached with
  | here => exact .refl _
  | inside _ _ _ _ ih => exact (Pointer.above_step _ _).trans ih

theorem inside_iff (ordered : v.Ordered) (place : (step, w) ∈ v.places)
    (below : (p.step step).Above q) :
    Reached schema v p q ↔ schema.allowedKinds.Admits (Kind.of v) ∧
      ∃ sub, schema.schemaAt? step = some sub ∧ Reached sub w (p.step step) q := by
  constructor
  · intro reached
    cases reached with
    | here => exact absurd below (p.not_step_above step)
    | inside typed other applies inside =>
      have same := List.inj_on_of_nodup_map ordered.nodup_texts other place
        (inside.above.text_eq below)
      cases same
      exact ⟨typed, _, applies, inside⟩
  · intro reached
    obtain ⟨typed, sub, applies, inside⟩ := reached
    exact .inside typed place applies inside

end Reached

section Truncated

open Classical

variable {ample limit : Nat}

theorem flatMap_truncatedAt_eq_nil {full : List Diagnostic} {reached : Pointer → Prop} {w : Json}
    {p : Pointer} (silent : ∀ q, p.Above q → q.depth ≤ limit → full.filter (·.pointer = q) = [])
    (cut : ∀ q, p.Above q → q.depth = limit + 1 → ¬reached q) :
    (w.locations p).flatMap (fun x => truncatedAt limit full reached x.1) = [] := by
  apply List.flatMap_eq_nil_iff.2
  intro x location
  have above := Json.above_of_mem_locations location
  unfold truncatedAt
  by_cases shallow : x.1.depth ≤ limit
  · rw [if_pos shallow]
    exact silent x.1 above shallow
  · rw [if_neg shallow]
    apply if_neg
    intro met
    exact cut x.1 above met.1 met.2

theorem flatMap_truncatedAt_congr {full full' : List Diagnostic} {reached reached' : Pointer → Prop}
    {w : Json} {p : Pointer}
    (found : ∀ q, p.Above q → full.filter (·.pointer = q) = full'.filter (·.pointer = q))
    (met : ∀ q, p.Above q → (reached q ↔ reached' q)) :
    (w.locations p).flatMap (fun x => truncatedAt limit full reached x.1) =
      (w.locations p).flatMap fun x => truncatedAt limit full' reached' x.1 := by
  apply List.flatMap_congr
  intro x location
  have above := Json.above_of_mem_locations location
  simp only [truncatedAt, found x.1 above, met x.1 above]

theorem truncatedAt_of_deeper {full : List Diagnostic} {reached : Pointer → Prop} {q : Pointer}
    (deeper : limit + 1 < q.depth) : truncatedAt limit full reached q = [] := by
  rw [truncatedAt, if_neg (by omega), if_neg (by omega)]

-- What is left above the cut is the full report there, which tells of no place that is too deep.
theorem filter_truncatedAt {full : List Diagnostic} {reached : Pointer → Prop} {q : Pointer}
    (told : q.depth ≤ limit → ∀ d ∈ full, d.pointer = q → d.kind ≠ .tooDeep) :
    (truncatedAt limit full reached q).filter (·.kind ≠ .tooDeep) =
      (full.filter (·.pointer = q)).filter (·.pointer.depth ≤ limit) := by
  have here (d : Diagnostic) (member : d ∈ full.filter (·.pointer = q)) : d.pointer = q :=
    of_decide_eq_true (List.mem_filter.1 member).2
  unfold truncatedAt
  by_cases shallow : q.depth ≤ limit
  · have kept : (full.filter (·.pointer = q)).filter (·.pointer.depth ≤ limit) =
        full.filter (·.pointer = q) := by
      apply List.filter_eq_self.2
      intro d member
      simpa [here d member] using shallow
    rw [if_pos shallow, kept]
    apply List.filter_eq_self.2
    intro d member
    simpa using told shallow d (List.mem_filter.1 member).1 (here d member)
  · have gone : (full.filter (·.pointer = q)).filter (·.pointer.depth ≤ limit) = [] := by
      apply List.filter_eq_nil_iff.2
      intro d member
      simpa [here d member] using shallow
    rw [if_neg shallow, gone]
    split
    · rfl
    · rfl

end Truncated

section

variable [PatternEngine]

namespace Schema

variable {raw : Json} {s : Schema}

theorem Compiles.typePasses_of_allowed (compiled : Compiles raw s) (plain : s.alternatives = [])
    {o : Options} {checks : List Check} {v : Json} {p : Pointer}
    (allowed : s.allowed.admits (Kind.of v) = true) : s.typePasses o checks v p = true := by
  rcases compiled.covered allowed with named | ⟨place, t, member, _⟩
  · exact (typePasses_iff ..).2 (.inl named)
  · rw [plain] at member
    cases member

theorem Compiles.allowed_admits_iff (compiled : Compiles raw s) (k : Kind) :
    s.allowed.admits k = true ↔ raw.allowedKinds.Admits k := by
  rw [TypeSet.admits_iff, Kinds.admits_congr compiled.allowed_iff]

section Walk

open Classical

variable {ample limit : Nat}

theorem Compiles.step_truncated (compiled : Compiles raw s) {v w : Json} (sorted : v.Sorted)
    {p : Pointer} (ampler : p.depth ≤ ample) (allowed : s.allowed.admits (Kind.of v) = true)
    {step : Step} (place : (step, w) ∈ v.places)
    (nested : ∀ sub t, Compiles sub t → s.at? step = some t →
      t.visit ⟨true, limit⟩ [] w (p.step step) = (w.locations (p.step step)).flatMap fun x =>
        truncatedAt limit (t.visit ⟨true, ample⟩ [] w (p.step step))
          (Reached sub w (p.step step)) x.1) :
    stepDiagnostics ⟨true, limit⟩ [] s p step w = (w.locations (p.step step)).flatMap fun x =>
      truncatedAt limit (ownDiagnostics ⟨true, ample⟩ [] s v p ++
        v.places.flatMap fun x => stepDiagnostics ⟨true, ample⟩ [] s p x.1 x.2)
        (Reached raw v p) x.1 := by
  have own : ∀ d ∈ ownDiagnostics ⟨true, ample⟩ [] s v p, d.pointer = p :=
    fun _ => pointer_of_mem_ownDiagnostics
  have under (q : Pointer) (above : (p.step step).Above q) :=
    Shaped.filter_at sorted.ordered own
      (fun step w _ => stepDiagnostics_shaped ⟨true, ample⟩ [] s ampler step w) place above
  have related := compiled.rel_at? step
  cases found : s.at? step with
  | none =>
    rw [found] at related
    have absent : raw.schemaAt? step = none := by
      generalize raw.schemaAt? step = document at related
      cases related
      rfl
    have silent (limit : Nat) : stepDiagnostics ⟨true, limit⟩ [] s p step w = [] := by
      simp [stepDiagnostics, found]
    rw [silent, flatMap_truncatedAt_eq_nil]
    · intro q above _
      rw [under q above, silent]
      rfl
    · intro q above _ reached
      obtain ⟨_, sub, applies, _⟩ := (Reached.inside_iff sorted.ordered place above).1 reached
      rw [absent] at applies
      cases applies
  | some t =>
    rw [found] at related
    obtain ⟨sub, applies, compiles⟩ := exists_of_rel_some related
    have same (limit : Nat) : stepDiagnostics ⟨true, limit⟩ [] s p step w =
        t.visit ⟨true, limit⟩ [] w (p.step step) := by
      simp [stepDiagnostics, found]
    rw [same, nested sub t compiles found, ← same]
    apply flatMap_truncatedAt_congr
    · intro q above
      exact (under q above).symm
    · intro q above
      rw [Reached.inside_iff sorted.ordered place above, applies]
      have typed := (compiled.allowed_admits_iff _).1 allowed
      simp [typed]

-- A walk under a limit is the walk under an ample one, cut place by place. A place is only come to
-- from one that is not too deep.
theorem Compiles.visit_truncated (compiled : Compiles raw s)
    (plain : s.Everywhere fun t => t.alternatives = []) {v : Json} (sorted : v.Sorted) (p : Pointer)
    (within : p.depth + v.depth ≤ ample) (near : p.depth ≤ limit + 1) :
    s.visit ⟨true, limit⟩ [] v p = (v.locations p).flatMap fun x =>
      truncatedAt limit (s.visit ⟨true, ample⟩ [] v p) (Reached raw v p) x.1 := by
  induction s using Schema.induction generalizing raw v p with
  | step s ih =>
    rw [Json.locations_eq, List.flatMap_cons, List.flatMap_assoc]
    by_cases deep : limit < p.depth
    · -- The walk turns back here, and every place inside is deeper still.
      have here : p.depth = limit + 1 := by omega
      have head : truncatedAt limit (s.visit ⟨true, ample⟩ [] v p) (Reached raw v p) p =
          [depthDiagnostic ⟨true, limit⟩ p] := by
        rw [truncatedAt, if_neg (by omega), if_pos ⟨here, .here⟩]
      rw [(Visited.tooDeep deep).eq, head, List.flatMap_eq_nil_iff.2]
      · rfl
      intro x place
      apply List.flatMap_eq_nil_iff.2
      intro y location
      have lower := (Json.above_of_mem_locations location).depth_le
      rw [Pointer.depth_step] at lower
      exact truncatedAt_of_deeper (by omega)
    have shallow : p.depth ≤ limit := by omega
    have ampler : p.depth ≤ ample := by omega
    have head (found : List Diagnostic) :
        truncatedAt limit found (Reached raw v p) p = found.filter (·.pointer = p) :=
      if_pos shallow
    rw [head]
    by_cases allowed : s.allowed.admits (Kind.of v) = true
    · have typed (limit : Nat) : s.typePasses ⟨true, limit⟩ [] v p = true :=
        compiled.typePasses_of_allowed plain.root allowed
      have own : ∀ d ∈ ownDiagnostics ⟨true, ample⟩ [] s v p, d.pointer = p :=
        fun _ => pointer_of_mem_ownDiagnostics
      rw [(Visited.typed shallow allowed (typed _)).eq, (Visited.typed ampler allowed (typed _)).eq,
        Shaped.filter_self own fun step w _ => stepDiagnostics_shaped _ _ s ampler step w]
      refine congrArg (ownDiagnostics ⟨true, limit⟩ [] s v p ++ ·) ?_
      apply List.flatMap_congr
      intro x place
      apply compiled.step_truncated sorted ampler allowed place
      intro sub t nested found
      obtain ⟨position, child⟩ := child_of_at? found
      have smaller := Json.depth_lt_of_mem_places place
      apply ih position t child nested (plain.child child) (sorted.inside place)
      · rw [Pointer.depth_step]
        omega
      · rw [Pointer.depth_step]
        omega
    · have refused : s.allowed.admits (Kind.of v) = false := by simpa using allowed
      have placed (d : Diagnostic) (member : d ∈ [s.kindMismatch (Kind.of v) p]) :
          d.pointer = p := by
        rw [List.mem_singleton.1 member]
        rfl
      rw [(Visited.kindMismatch shallow refused).eq, (Visited.kindMismatch ampler refused).eq,
        List.flatMap_eq_nil_iff.2]
      · rw [List.append_nil, List.filter_eq_self.2]
        intro d member
        rw [placed d member]
        exact decide_eq_true rfl
      intro x place
      apply flatMap_truncatedAt_eq_nil
      · intro q above _
        apply List.filter_eq_nil_iff.2
        intro d member same
        have here := (placed d member).symm.trans (of_decide_eq_true same)
        exact above.ne_of_step here.symm
      · intro q above _ reached
        have typed := ((Reached.inside_iff sorted.ordered place above).1 reached).1
        exact allowed ((compiled.allowed_admits_iff _).2 typed)

end Walk

open Classical in
/-- Where no schema has alternatives, the report under a limit is the report under any ample limit
with everything below the limit left out, and with one diagnostic for each place right below it that
the walk comes to, in the order of the document and whatever is wrong there. -/
theorem foundWithin_truncated {raw : Json} {s : Schema}
    (compiled : (Node.compile raw).schema? = some s)
    (plain : s.Everywhere fun t => t.alternatives = []) {v : Json} (sorted : v.Sorted)
    {ample : Nat} (within : v.depth ≤ ample) (limit : Nat) :
    (∀ other, v.depth ≤ other →
        foundWithin other raw true [] v = foundWithin ample raw true [] v) ∧
      foundWithin limit raw true [] v = (v.locations .root).flatMap (fun x =>
        truncatedAt limit (foundWithin ample raw true [] v) (Reached raw v .root) x.1) ∧
      (foundWithin limit raw true [] v).filter (·.kind ≠ .tooDeep) =
        (foundWithin ample raw true [] v).filter (·.pointer.depth ≤ limit) := by
  have compiles := compiles_of_schema? compiled
  have shaped : Shaped ⟨true, ample⟩ v .root (s.visit ⟨true, ample⟩ [] v .root) :=
    visit_shaped s v .root (Nat.zero_le _)
  have truncated (limit : Nat) : s.visit ⟨true, limit⟩ [] v .root =
      (v.locations .root).flatMap fun x =>
        truncatedAt limit (s.visit ⟨true, ample⟩ [] v .root) (Reached raw v .root) x.1 :=
    compiles.visit_truncated plain sorted .root (by simpa using within) (Nat.zero_le _)
  have bounded (x : Pointer × Json) (location : x ∈ v.locations .root) : x.1.depth ≤ v.depth := by
    simpa using Json.depth_le_of_mem_locations location
  simp only [compiles.foundWithin_eq]
  generalize full : s.visit ⟨true, ample⟩ [] v .root = report at shaped truncated
  have blocks := shaped.grouped sorted
  refine ⟨?_, truncated limit, ?_⟩
  · intro other enough
    calc
      s.visit ⟨true, other⟩ [] v .root = (v.locations .root).flatMap fun x =>
          truncatedAt other report (Reached raw v .root) x.1 := truncated other
      _ = (v.locations .root).flatMap fun x => report.filter (·.pointer = x.1) :=
        List.flatMap_congr fun x location => if_pos (Nat.le_trans (bounded x location) enough)
      _ = report := blocks.symm
  · rw [truncated limit, List.filter_flatMap]
    conv_rhs => rw [blocks, List.filter_flatMap]
    apply List.flatMap_congr
    intro x location
    apply filter_truncatedAt
    intro shallow d member here
    rcases shaped.bounded member with ⟨_, deep⟩ | ⟨other, _⟩
    · have room := bounded x location
      rw [here] at deep
      dsimp only at deep
      omega
    · exact other

end Schema

end

namespace Schema

def gridSchema : Json :=
  .object [("items", .object [
    ("items", .object [("type", .string "string")]),
    ("minItems", .number (.integer 4 (by decide)))])]

def grid : Json := .array [.array [.string "new", .null], .bool true]

theorem foundWithin_truncated_grid :
    ∃ s, (Node.compile gridSchema).schema? = some s ∧ (s.Everywhere fun t => t.alternatives = []) ∧
      grid.Sorted ∧ grid.depth ≤ 2 ∧
      foundWithin 64 gridSchema true [] grid = foundWithin 2 gridSchema true [] grid ∧
      (foundWithin 1 gridSchema true [] grid).filter (·.kind ≠ .tooDeep) =
        (foundWithin 2 gridSchema true [] grid).filter (·.pointer.depth ≤ 1) ∧
      (foundWithin 2 gridSchema true [] grid).map (·.kind) = [.keyword, .typeMismatch] ∧
      (foundWithin 1 gridSchema true [] grid).map (·.kind) = [.keyword, .tooDeep, .tooDeep] := by
  have compiled : ∃ s, (Node.compile gridSchema).schema? = some s ∧
      s.Everywhere fun t => t.alternatives = [] := by
    -- The schema, that of the rows and that of the words each have one child at most.
    refine ⟨_, rfl, everywhere_of_children rfl ?_⟩
    rintro _ _ (child | child | ⟨child, _⟩ | child | child | child) <;> cases child
    refine everywhere_of_children rfl ?_
    rintro _ _ (child | child | ⟨child, _⟩ | child | child | child) <;> cases child
    refine everywhere_of_children rfl ?_
    rintro _ _ (child | child | ⟨child, _⟩ | child | child | child) <;> cases child
  obtain ⟨s, compiled, plain⟩ := compiled
  have sorted : grid.Sorted := by
    have simple (v : Json) (flat : v = .string "new" ∨ v = .null ∨ v = .bool true) : v.Sorted := by
      rcases flat with rfl | rfl | rfl <;> exact Json.sorted_of_places_eq_nil rfl
    exact Json.sorted_array (by simpa [simple] using Json.sorted_array (by simp [simple]))
  have within : grid.depth ≤ 2 := by decide
  obtain ⟨settled, _, kept⟩ := foundWithin_truncated compiled plain sorted within 1
  exact ⟨s, compiled, plain, sorted, within, settled 64 (by decide), kept, by decide +kernel,
    by decide +kernel⟩

end Schema

end JsonSchema
