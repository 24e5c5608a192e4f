import JsonSchema.Proofs.Visit.Shape

set_option autoImplicit false

namespace JsonSchema

theorem sublist_flatMap {α β : Type} {l : List α} {f g : α → List β}
    (each : ∀ a ∈ l, (f a).Sublist (g a)) : (l.flatMap f).Sublist (l.flatMap g) := by
  induction l with
  | nil => exact .slnil
  | cons head rest ih =>
    rw [List.flatMap_cons, List.flatMap_cons]
    exact (each head (.head _)).append (ih fun a member => each a (.tail _ member))

section

variable [PatternEngine]

structure Stop where
  schema : Schema
  value : Json
  place : Pointer

namespace Stop

variable (o : Options) (checks : List Check) (x : Stop)

def passes : Bool :=
  decide (x.place.depth ≤ o.maxDepth) && x.schema.allowed.admits (Kind.of x.value) &&
    x.schema.typePasses o [] x.value x.place

def builtIn : List Diagnostic :=
  if o.maxDepth < x.place.depth then [Schema.depthDiagnostic o x.place]
  else if !x.schema.allowed.admits (Kind.of x.value) then
    [x.schema.kindMismatch (Kind.of x.value) x.place]
  else if x.schema.typePasses o [] x.value x.place then
    Schema.ownDiagnostics o [] x.schema x.value x.place
  else [Schema.alternativeMismatch x.place]

def added : List Diagnostic :=
  if x.passes o then
    checks.flatMap fun check => (check x.schema x.value x.place).map (⟨.keyword, x.place, ·⟩)
  else []

def block : List Diagnostic := x.builtIn o ++ x.added o checks

theorem added_nil : x.added o [] = [] := ite_self _

theorem block_nil : x.block o [] = x.builtIn o := by
  rw [block, added_nil, List.append_nil]

theorem pointer_of_mem_block {d : Diagnostic} (member : d ∈ x.block o checks) :
    d.pointer = x.place := by
  rcases List.mem_append.1 member with own | other
  · unfold builtIn at own
    split at own
    · rw [List.mem_singleton.1 own]
      rfl
    · split at own
      · rw [List.mem_singleton.1 own]
        rfl
      · split at own
        · exact Schema.pointer_of_mem_ownDiagnostics own
        · rw [List.mem_singleton.1 own]
          rfl
  · simp only [added, List.mem_ite_nil_right, List.mem_flatMap, List.mem_map] at other
    obtain ⟨_, _, _, _, _, rfl⟩ := other
    rfl

theorem added_perm {checks checks' : List Check} (perm : checks.Perm checks') :
    (x.added o checks).Perm (x.added o checks') := by
  unfold added
  split
  · exact perm.flatMap_right _
  · exact .refl _

end Stop

namespace Schema

def stops (o : Options) (s : Schema) (v : Json) (p : Pointer) : List Stop :=
  ⟨s, v, p⟩ ::
    if o.structural && Stop.passes o ⟨s, v, p⟩ then
      v.places.attach.flatMap fun x =>
        ((s.at? x.1.1).map (stops o · x.1.2 (p.step x.1.1))).getD []
    else []
termination_by v.depth
decreasing_by exact Json.depth_lt_of_mem_places x.2

variable {o : Options} {checks : List Check} {s : Schema} {v : Json} {p : Pointer}

theorem stops_eq : s.stops o v p = ⟨s, v, p⟩ ::
    if o.structural && Stop.passes o ⟨s, v, p⟩ then
      v.places.flatMap fun x => ((s.at? x.1).map (stops o · x.2 (p.step x.1))).getD []
    else [] := by
  rw [stops]
  simp only [List.flatMap_subtype, List.unattach_attach]

theorem ownDiagnostics_append : ownDiagnostics o checks s v p =
    ownDiagnostics o [] s v p ++
      checks.flatMap fun check => (check s v p).map (⟨.keyword, p, ·⟩) := by
  unfold ownDiagnostics
  rw [List.flatMap_nil, List.append_nil]

theorem visit_eq_block (plain : s.alternatives = []) : s.visit o checks v p =
    Stop.block o checks ⟨s, v, p⟩ ++
      if o.structural && Stop.passes o ⟨s, v, p⟩ then s.inner o checks v p else [] := by
  have typed : s.typePasses o checks v p = s.typePasses o [] v p := by
    rw [typePasses, typePasses, plain]
    rfl
  rw [visit_eq, typed, Stop.block, Stop.builtIn, Stop.added, Stop.passes]
  by_cases deep : o.maxDepth < p.depth
  · have limit : decide (p.depth ≤ o.maxDepth) = false := decide_eq_false (Nat.not_le.2 deep)
    simp [deep, limit]
  have shallow : p.depth ≤ o.maxDepth := Nat.not_lt.1 deep
  cases s.allowed.admits (Kind.of v) with
  | false => simp [deep]
  | true =>
    cases s.typePasses o [] v p with
    | false => simp [deep]
    | true =>
      rw [ownDiagnostics_append]
      cases o.structural <;> simp [deep, shallow]

theorem visit_eq_flatMap_stops (plain : s.Everywhere fun t => t.alternatives = []) :
    s.visit o checks v p = (s.stops o v p).flatMap (Stop.block o checks) := by
  induction s using Schema.induction generalizing v p with
  | step s ih =>
    have inside : s.inner o checks v p = v.places.flatMap fun x =>
        (((s.at? x.1).map (stops o · x.2 (p.step x.1))).getD []).flatMap (Stop.block o checks) := by
      rw [inner_eq]
      refine List.flatMap_congr fun x _ => ?_
      cases found : s.at? x.1 with
      | none => rfl
      | some t =>
        obtain ⟨position, child⟩ := child_of_at? found
        exact ih position t child (plain.child child)
    rw [visit_eq_block plain.root, stops_eq, List.flatMap_cons, inside]
    refine congrArg (Stop.block o checks ⟨s, v, p⟩ ++ ·) ?_
    split
    · exact List.flatMap_assoc.symm
    · rfl

theorem stops_sublist_locations :
    ((s.stops o v p).map fun x => (x.place, x.value)).Sublist (v.locations p) := by
  induction v using Json.placeInduction generalizing s p with
  | step v ih =>
    rw [stops_eq, Json.locations_eq, List.map_cons]
    refine .cons_cons _ ?_
    split
    · rw [List.map_flatMap]
      refine sublist_flatMap fun x place => ?_
      cases s.at? x.1 with
      | none => exact List.nil_sublist _
      | some t => exact ih x.1 x.2 place
    · exact List.nil_sublist _

theorem nodup_stops (sorted : v.Sorted) : ((s.stops o v p).map Stop.place).Nodup := by
  have distinct := (stops_sublist_locations (o := o) (s := s)).map Prod.fst |>.nodup
    (Json.nodup_locations sorted p)
  rwa [List.map_map] at distinct

theorem filter_flatMap_block (sorted : v.Sorted) {x : Stop} (member : x ∈ s.stops o v p) :
    ((s.stops o v p).flatMap (Stop.block o checks)).filter (·.pointer = x.place) =
      x.block o checks := by
  have apart (y : Stop) : (y.block o checks).filter (·.pointer = x.place) =
      if y.place = x.place then y.block o checks else [] := by
    split
    next same =>
      refine List.filter_eq_self.2 fun d told => decide_eq_true ?_
      rw [y.pointer_of_mem_block o checks told, same]
    next other =>
      refine List.filter_eq_nil_iff.2 fun d told => ?_
      rw [y.pointer_of_mem_block o checks told, decide_eq_true_eq]
      exact other
  rw [List.filter_flatMap, List.flatMap_congr fun y _ => apart y]
  exact flatMap_ite_eq (nodup_stops sorted) member _

end Schema

def findingsWith (o : Options) (checks : List Check) (raw v : Json) : List Diagnostic :=
  ({ Validator.ofSchema raw with options := o, checks := checks }.check v).diagnostics

structure ChecksAdd (o : Options) (raw v : Json) (visits : List Stop) : Prop where
  walked : (visits.map fun x => (x.place, x.value)).Sublist (v.locations .root)
  without : findings o raw v = visits.flatMap fun x => x.builtIn o
  report : ∀ checks,
    findingsWith o checks raw v = visits.flatMap fun x => x.builtIn o ++ x.added o checks
  placed : ∀ checks, ∀ x ∈ visits, ∀ d ∈ x.builtIn o ++ x.added o checks, d.pointer = x.place
  kept : ∀ checks, (findings o raw v).Sublist (findingsWith o checks raw v)
  located : v.Sorted → ∀ checks, ∀ x ∈ visits,
    (findingsWith o checks raw v).filter (·.pointer = x.place) = x.builtIn o ++ x.added o checks
  exchanged : ∀ checks checks', checks.Perm checks' → ∀ p,
    ((findingsWith o checks raw v).filter (·.pointer = p)).Perm
      ((findingsWith o checks' raw v).filter (·.pointer = p))

namespace Schema

def TypesNamed (root : Schema) : Prop :=
  root.Everywhere fun s => ∀ elements, s.raw.member? "type" = some (.array elements) →
    ∀ e ∈ elements, e.isObject = false

theorem Compiles.alternatives_eq_nil {raw : Json} {root : Schema} (compiled : Compiles raw root)
    (named : root.TypesNamed) : root.Everywhere fun s => s.alternatives = [] := by
  intro s reached
  refine List.eq_nil_iff_forall_not_mem.2 fun x member => ?_
  obtain ⟨sub, inside, _⟩ :=
    ((compiled.reachable reached).mem_alternatives_iff x.1 x.2).1 member
  cases inside with
  | alternative declared found object =>
    rw [named s reached _ declared sub (List.mem_of_getElem? found)] at object
    cases object

/-- Where no schema stands in an array of types, added checks only add, and their order shows at no
place but in the order of what they add. -/
theorem checks_add {raw : Json} {root : Schema} (found : (Node.compile raw).schema? = some root)
    (named : root.TypesNamed) (o : Options) (v : Json) :
    ChecksAdd o raw v (root.stops o v .root) := by
  have compiled := compiles_of_schema? found
  have plain := compiled.alternatives_eq_nil named
  have report (checks : List Check) : findingsWith o checks raw v =
      (root.stops o v .root).flatMap (Stop.block o checks) := by
    rw [findingsWith, compiled.check_eq, visit_eq_flatMap_stops plain]
  have without : findings o raw v = (root.stops o v .root).flatMap fun x => x.builtIn o :=
    (report []).trans (List.flatMap_congr fun x _ => x.block_nil o)
  refine {
    walked := stops_sublist_locations
    without
    report
    placed := fun checks x _ d => x.pointer_of_mem_block o checks
    kept := fun checks => ?_
    located := fun sorted checks x member => ?_
    exchanged := fun checks checks' perm p => ?_ }
  · rw [without, report]
    exact sublist_flatMap fun x _ => List.sublist_append_left _ _
  · rw [report, filter_flatMap_block sorted member]
    rfl
  · rw [report, report]
    exact (List.Perm.flatMap_left _ fun x _ => (x.added_perm o perm).append_left _).filter _

end Schema

end

namespace Schema

def sparseWordsSchema : Json :=
  .object [("items", .object [
    ("enum", .array [.null, .string "old"]),
    ("type", .array [.string "null", .string "string"])])]

def sparseWords : Json := .array [.string "", .bool true, .null]

def wordChecks : List Check := [Checks.nonEmptyStrings, Checks.visited]

theorem checks_add_words :
    ∃ root, (Node.compile sparseWordsSchema).schema? = some root ∧ root.TypesNamed ∧
      sparseWords.Sorted ∧
      ((root.stops .default sparseWords .root).map fun x =>
        (x.builtIn .default).length) = [0, 1, 1, 0] ∧
      ((root.stops .default sparseWords .root).map fun x =>
        (x.added .default wordChecks).length) = [1, 2, 0, 1] ∧
      findingsWith .default wordChecks sparseWordsSchema sparseWords =
        (root.stops .default sparseWords .root).flatMap fun x =>
          x.builtIn .default ++ x.added .default wordChecks := by
  obtain ⟨root, found, named, alone, more⟩ : ∃ root,
      (Node.compile sparseWordsSchema).schema? = some root ∧ root.TypesNamed ∧
        ((root.stops .default sparseWords .root).map fun x =>
          (x.builtIn .default).length) = [0, 1, 1, 0] ∧
        ((root.stops .default sparseWords .root).map fun x =>
          (x.added .default wordChecks).length) = [1, 2, 0, 1] := by
    refine ⟨_, rfl, everywhere_of_children nofun ?_, by decide +kernel, by decide +kernel⟩
    -- The schema has one child, and that has none.
    rintro _ _ (child | child | ⟨child, _⟩ | child | child | child) <;> cases child
    refine everywhere_of_children ?_ ?_
    · intro elements declared
      cases declared
      decide
    · rintro _ _ (child | child | ⟨child, _⟩ | child | child | child) <;> cases child
  have added := checks_add found named .default sparseWords
  exact ⟨root, found, named, by decide, alone, more, added.report wordChecks⟩

end Schema

end JsonSchema
