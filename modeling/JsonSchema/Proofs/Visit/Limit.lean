import JsonSchema.Proofs.Visit.Leniency
import JsonSchema.Proofs.Visit.Shape

set_option autoImplicit false

/-!
What a larger limit on the depth can change. The walk tells of a place that is too deep, but the
trial of an alternative keeps it to itself: the alternative does not pass, and when none does, all
that is told is a mismatch. So a report that tells of no such place is the report under every larger
limit, up to what those mismatches stand for.
-/

namespace JsonSchema

namespace Diagnostic

-- No alternative has passed, be it for the value or for the limit.
def OfAlternatives (d : Diagnostic) : Prop := d = Schema.alternativeMismatch d.pointer

instance : DecidablePred OfAlternatives := fun _ => inferInstanceAs (Decidable (_ = _))

theorem OfAlternatives.kind {d : Diagnostic} (mismatch : d.OfAlternatives) :
    d.kind = .typeMismatch := by
  rw [mismatch]
  rfl

end Diagnostic

/-- What another report tells in the place of a diagnostic: the diagnostic itself, but for a
mismatch with the alternatives all that is told from there on. -/
def reopen (found : List Diagnostic) (d : Diagnostic) : List Diagnostic :=
  if d.OfAlternatives then found.filter (d.pointer.Above ·.pointer) else [d]

theorem reopen_of_not {d : Diagnostic} (plain : ¬d.OfAlternatives) (found : List Diagnostic) :
    reopen found d = [d] :=
  if_neg plain

theorem flatMap_reopen_eq_self {found before : List Diagnostic}
    (each : ∀ d ∈ before, reopen found d = [d]) : before.flatMap (reopen found) = before := by
  rw [List.flatMap_congr each, List.flatMap_singleton']

theorem BlockKinds.eq_of_typeMismatch {kinds : List DiagnosticKind} (block : BlockKinds kinds)
    (member : .typeMismatch ∈ kinds) : kinds = [.typeMismatch] := by
  cases block with
  | typeMismatch => rfl
  | tooDeep => cases List.mem_singleton.1 member
  | keywords count => cases List.eq_of_mem_replicate member
  | enumMismatch count =>
    rcases List.mem_cons.1 member with same | later
    · cases same
    · cases List.eq_of_mem_replicate later

namespace Shaped

variable {o : Options} {v : Json} {p : Pointer} {found : List Diagnostic}

theorem reopen_self (shaped : Shaped o v p found) (sorted : v.Sorted) {d : Diagnostic}
    (member : d ∈ found) : reopen found d = [d] := by
  unfold reopen
  by_cases mismatch : d.OfAlternatives
  · have last : found.filter (d.pointer.Above ·.pointer) = found.filter (·.pointer = d.pointer) := by
      refine List.filter_congr fun e other => decide_eq_decide.2 ⟨?_, ?_⟩
      · exact shaped.final sorted member (.inl mismatch.kind) other
      · intro same
        rw [same]
        exact .refl _
    have here : d ∈ found.filter (·.pointer = d.pointer) :=
      List.mem_filter.2 ⟨member, decide_eq_true rfl⟩
    have only := (shaped.kinds sorted d.pointer).eq_of_typeMismatch
      (List.mem_map.2 ⟨d, here, mismatch.kind⟩)
    obtain ⟨e, block, _⟩ := List.map_eq_singleton_iff.1 only
    rw [block, List.mem_singleton] at here
    rw [if_pos mismatch, last, block, here]
  · exact if_neg mismatch

theorem flatMap_reopen_of_mem (shaped : Shaped o v p found) (sorted : v.Sorted)
    {before : List Diagnostic} (kept : ∀ d ∈ before, d.OfAlternatives → d ∈ found) :
    before.flatMap (reopen found) = before := by
  have each (d : Diagnostic) (member : d ∈ before) : reopen found d = [d] := by
    by_cases mismatch : d.OfAlternatives
    · exact shaped.reopen_self sorted (kept d member mismatch)
    · exact reopen_of_not mismatch found
  exact flatMap_reopen_eq_self each

theorem reopen_inside {own : List Diagnostic} {inside : Step → Json → List Diagnostic}
    (ordered : v.Ordered) (placed : ∀ d ∈ own, d.pointer = p)
    (below : ∀ step w, (step, w) ∈ v.places → Shaped o w (p.step step) (inside step w))
    {step : Step} {w : Json} (place : (step, w) ∈ v.places) {d : Diagnostic}
    (under : (p.step step).Above d.pointer) :
    reopen (own ++ v.places.flatMap fun x => inside x.1 x.2) d = reopen (inside step w) d := by
  unfold reopen
  rw [filter_inside ordered placed below place fun e lower => under.trans (of_decide_eq_true lower)]

end Shaped

section

variable [PatternEngine]

namespace Schema

variable {structural : Bool} {limit larger : Nat} {checks : List Check}

theorem flatMap_reopen_ownDiagnostics {o : Options} (s : Schema) (v : Json) (p : Pointer)
    (found : List Diagnostic) :
    (ownDiagnostics o checks s v p).flatMap (reopen found) = ownDiagnostics o checks s v p := by
  refine flatMap_reopen_eq_self fun d member => reopen_of_not (fun mismatch => ?_) found
  exact not_isFinal_of_mem_ownDiagnostics member (.inl mismatch.kind)

theorem visit_of_larger (le : limit ≤ larger) (s : Schema) {v : Json} (sorted : v.Sorted)
    (p : Pointer) (told : ∀ d ∈ s.visit ⟨structural, limit⟩ checks v p, d.kind ≠ .tooDeep) :
    s.visit ⟨structural, larger⟩ checks v p = (s.visit ⟨structural, limit⟩ checks v p).flatMap
      (reopen (s.visit ⟨structural, larger⟩ checks v p)) := by
  induction s using Schema.induction generalizing v p with
  | step s ih =>
    have shaped (shallow : p.depth ≤ larger) :
        Shaped ⟨structural, larger⟩ v p (s.visit ⟨structural, larger⟩ checks v p) :=
      visit_shaped s v p (Nat.le_succ_of_le shallow)
    have outcome := visited ⟨structural, limit⟩ checks s v p
    generalize s.visit ⟨structural, limit⟩ checks v p = found at told outcome
    cases outcome with
    | tooDeep deep => exact absurd rfl (told _ List.mem_cons_self)
    | kindMismatch shallow refused =>
      have same : s.visit ⟨structural, larger⟩ checks v p = [s.kindMismatch (Kind.of v) p] :=
        (Visited.kindMismatch (Nat.le_trans shallow le) refused).eq
      have shaped := shaped (Nat.le_trans shallow le)
      rw [same] at shaped ⊢
      exact (shaped.flatMap_reopen_of_mem sorted fun _ member _ => member).symm
    | alternativeMismatch shallow =>
      -- Whatever the larger limit lets a trial reach stands at this place or below it.
      have shaped := shaped (Nat.le_trans shallow le)
      have mismatch : (Schema.alternativeMismatch p).OfAlternatives := rfl
      rw [List.flatMap_singleton, reopen, if_pos mismatch]
      refine (List.filter_eq_self.2 fun d member => ?_).symm
      exact decide_eq_true (shaped.above member)
    | typed shallow allowed typed =>
      have less : Lenient ⟨structural, limit⟩ ⟨structural, larger⟩ checks checks :=
        ⟨le, id, fun _ => id⟩
      have typed : s.typePasses ⟨structural, larger⟩ checks v p = true :=
        typePasses_of_silent (fun _ t _ => visit_eq_nil_of_lenient less t v p) typed
      rw [(Visited.typed (Nat.le_trans shallow le) allowed typed).eq, List.flatMap_append,
        flatMap_reopen_ownDiagnostics, List.flatMap_assoc]
      refine congrArg (ownDiagnostics _ checks s v p ++ ·) (List.flatMap_congr ?_)
      intro x place
      have inner : stepDiagnostics ⟨structural, larger⟩ checks s p x.1 x.2 =
          (stepDiagnostics ⟨structural, limit⟩ checks s p x.1 x.2).flatMap
            (reopen (stepDiagnostics ⟨structural, larger⟩ checks s p x.1 x.2)) := by
        rcases stepDiagnostics_eq checks s p structural x.1 x.2 with silent | ⟨t, found, same⟩
        · rw [silent, silent]
          rfl
        · obtain ⟨position, child⟩ := child_of_at? found
          rw [same, same]
          refine ih position t child (sorted.inside place) _ fun d member => ?_
          rw [← same] at member
          exact told d (List.mem_append_right _ (List.mem_flatMap.2 ⟨x, place, member⟩))
      rw [inner]
      refine List.flatMap_congr fun d member => ?_
      have under := (stepDiagnostics_shaped ⟨structural, limit⟩ checks s shallow x.1 x.2).above member
      have below (step : Step) (w : Json) (_ : (step, w) ∈ v.places) :=
        stepDiagnostics_shaped ⟨structural, larger⟩ checks s (Nat.le_trans shallow le) step w
      exact (Shaped.reopen_inside sorted.ordered (fun _ => pointer_of_mem_ownDiagnostics) below
        place under).symm

end Schema

def foundWithin (limit : Nat) (raw : Json) (structural : Bool) (checks : List Check) (v : Json) :
    List Diagnostic :=
  ({ Validator.ofSchema raw with options := ⟨structural, limit⟩, checks := checks }.check v).diagnostics

namespace Schema

theorem Compiles.foundWithin_eq {raw : Json} {s : Schema} (compiled : Compiles raw s) (limit : Nat)
    (structural : Bool) (checks : List Check) (v : Json) :
    foundWithin limit raw structural checks v = s.visit ⟨structural, limit⟩ checks v .root := by
  rw [foundWithin, compiled.check_eq]

/-- A report that tells of no place that is too deep stands under every larger limit, but for the
mismatches with alternatives: in the place of each comes what is then told from there on. The two
reports are the same exactly when every such mismatch stands. -/
theorem foundWithin_of_larger {raw : Json} (valid : (Node.compile raw).isValid = true) {v : Json}
    (sorted : v.Sorted) (structural : Bool) (checks : List Check) {limit larger : Nat}
    (le : limit ≤ larger)
    (told : ∀ d ∈ foundWithin limit raw structural checks v, d.kind ≠ .tooDeep) :
    foundWithin larger raw structural checks v =
        (foundWithin limit raw structural checks v).flatMap
          (reopen (foundWithin larger raw structural checks v)) ∧
      (foundWithin larger raw structural checks v = foundWithin limit raw structural checks v ↔
        ∀ d ∈ foundWithin limit raw structural checks v, d.OfAlternatives →
          d ∈ foundWithin larger raw structural checks v) := by
  obtain ⟨s, compiled⟩ := (isValid_compile_iff raw).1 valid
  have shaped : Shaped ⟨structural, larger⟩ v .root (s.visit ⟨structural, larger⟩ checks v .root) :=
    visit_shaped s v .root (Nat.zero_le _)
  rw [compiled.foundWithin_eq] at told
  rw [compiled.foundWithin_eq, compiled.foundWithin_eq]
  have reopened := visit_of_larger le s sorted .root told
  refine ⟨reopened, ?_, ?_⟩
  · intro same d member _
    rw [same]
    exact member
  · intro kept
    rw [reopened]
    exact shaped.flatMap_reopen_of_mem sorted kept

end Schema

end

namespace Schema

def rowsSchema : Json :=
  .object [("type", .array [.object [("items", .object [("items", .object [])])]])]

def titledSchema : Json :=
  .object [("items", .array [.object [("type", .string "string")], rowsSchema])]

def titled : Json := .array [.null, rows]

theorem foundWithin_of_larger_titled :
    (Node.compile titledSchema).isValid = true ∧ titled.Sorted ∧
      (∀ d ∈ foundWithin 2 titledSchema true [] titled, d.kind ≠ .tooDeep) ∧
      (foundWithin 2 titledSchema true [] titled).length = 2 ∧
      foundWithin 3 titledSchema true [] titled =
        (foundWithin 2 titledSchema true [] titled).flatMap
          (reopen (foundWithin 3 titledSchema true [] titled)) ∧
      foundWithin 3 titledSchema true [] titled ≠ foundWithin 2 titledSchema true [] titled := by
  have valid : (Node.compile titledSchema).isValid = true := rfl
  have sorted : titled.Sorted := by
    have null : Json.null.Sorted := Json.sorted_of_places_eq_nil rfl
    exact Json.sorted_array (by simpa using ⟨null, sorted_rows⟩)
  have told : ∀ d ∈ foundWithin 2 titledSchema true [] titled, d.kind ≠ .tooDeep := by
    decide +kernel
  have ⟨reopened, kept⟩ := foundWithin_of_larger valid sorted true [] (by decide : 2 ≤ 3) told
  refine ⟨valid, sorted, told, by decide +kernel, reopened, fun same => ?_⟩
  have mismatch : alternativeMismatch (Pointer.root.index 1) ∈
      foundWithin 2 titledSchema true [] titled := by
    decide +kernel
  have gone : alternativeMismatch (Pointer.root.index 1) ∉
      foundWithin 3 titledSchema true [] titled := by
    decide +kernel
  exact gone (kept.1 same _ mismatch rfl)

-- The null is too deep for the limit of one, and the only diagnostic does not say so.
theorem foundWithin_rows_silent :
    (Node.compile rowsSchema).isValid = true ∧ rows.Sorted ∧
      foundWithin 1 rowsSchema true [] rows = [alternativeMismatch .root] ∧
      (∀ d ∈ foundWithin 1 rowsSchema true [] rows, d.kind ≠ .tooDeep) ∧
      foundWithin 2 rowsSchema true [] rows = [] :=
  ⟨rfl, sorted_rows, by decide +kernel, by decide +kernel, by decide +kernel⟩

end Schema

end JsonSchema
