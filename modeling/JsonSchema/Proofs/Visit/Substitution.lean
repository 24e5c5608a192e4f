import JsonSchema.Proofs.Compile.Filling
import JsonSchema.Proofs.Visit.Shape
import JsonSchema.Proofs.Visit.Union

set_option autoImplicit false

namespace JsonSchema

section

variable [PatternEngine]

namespace Schema

variable {o : Options} {s t : Schema}

section Parallel

variable {R : Schema → Schema → Prop} (parallel : Parallel R s t)
include parallel

theorem Parallel.enumDiagnostics_eq (v : Json) (p : Pointer) :
    enumDiagnostics s v p = enumDiagnostics t v p := by
  have values := parallel.enumeration
  unfold enumDiagnostics
  generalize s.enumeration = left, t.enumeration = right at values
  cases values with
  | none => rfl
  | some same => simp only [same.any_eq]

theorem Parallel.ownDiagnostics_eq (flags : ∀ x y, R x y → x.required = y.required) (v : Json)
    (p : Pointer) : ownDiagnostics o [] s v p = ownDiagnostics o [] t v p := by
  rw [Schema.ownDiagnostics_eq, Schema.ownDiagnostics_eq, keywordTexts, keywordTexts,
    parallel.enumDiagnostics_eq, parallel.messages_eq flags]
  rfl

end Parallel

structure Refines (o : Options) (s t : Schema) : Prop where
  allowed : ∀ k, s.allowed.kinds k → t.allowed.kinds k
  required : s.required = t.required
  silent : ∀ v p, p.depth + v.depth ≤ o.maxDepth → s.visit o [] v p = [] → t.visit o [] v p = []

theorem Refines.refl (s : Schema) : Refines o s s := ⟨fun _ => id, rfl, fun _ _ _ => id⟩

theorem Parallel.refines (parallel : Parallel (Refines o) s t)
    (allowed : ∀ k, s.allowed.kinds k → t.allowed.kinds k)
    (named : ∀ k, s.named.kinds k → t.named.kinds k) : Refines o s t := by
  refine ⟨allowed, parallel.required, fun v p within silent => ?_⟩
  obtain ⟨shallow, admitted, typed, own, inside⟩ := (visit_eq_nil_iff ..).1 silent
  have typed' : t.typePasses o [] v p = true := by
    rw [typePasses_iff] at typed ⊢
    rcases typed with granted | ⟨i, x, member, passed⟩
    · exact .inl (TypeSet.admits_mono named granted)
    · obtain ⟨j, y, partner, related⟩ := parallel.forth i x member
      exact .inr ⟨j, y, partner, related.silent v p within passed⟩
  have inside' (structural : o.structural = true) : t.inner o [] v p = [] := by
    refine (inner_eq_nil_iff ..).2 fun step w place y found => ?_
    have related := parallel.rel_at? step
    rw [found] at related
    obtain ⟨x, original, refines⟩ := exists_of_rel_some related
    have below := Json.depth_lt_of_mem_places place
    have room : (p.step step).depth + w.depth ≤ o.maxDepth := by
      rw [Pointer.depth_step]
      omega
    have passed := (inner_eq_nil_iff ..).1 (inside structural) step w place x original
    exact refines.silent w _ room passed
  rw [parallel.ownDiagnostics_eq fun _ _ => Refines.required] at own
  exact (visit_eq_nil_iff ..).2 ⟨shallow, TypeSet.admits_mono allowed admitted, typed', own, inside'⟩

section Layers

variable {a b : Json} {x y : Schema} {layer : Layer} (inner : Compiles a x) (inner' : Compiles b y)
  (left : Compiles (layer.fill a) s) (right : Compiles (layer.fill b) t)
include inner inner' left right

theorem kinds_fill_eq (same : x.allowed = y.allowed) : s.allowed = t.allowed ∧ s.named = t.named := by
  have whole := inner.isObject
  have object := inner'.isObject
  have kinds (k : Kind) : a.allowedKinds k ↔ b.allowedKinds k := by
    rw [← inner.allowed_iff, ← inner'.allowed_iff, same]
  have forth := layer.typesWithin_fill whole object fun k => (kinds k).1
  have back := layer.typesWithin_fill object whole fun k => (kinds k).2
  exact ⟨left.allowed_eq right (Json.allowedKinds_iff_of_within forth back),
    left.named_eq right (Json.grantedKinds_iff_of_within forth back)⟩

theorem refines_layer (related : Refines o x y)
    (kinds : layer.frame.keyword ≠ "disallow" ∨ x.allowed = y.allowed) : Refines o s t := by
  have parallel := parallel_fill Refines.refl inner inner' related left right
  rcases kinds with other | same
  · have whole := inner.isObject
    have object := inner'.isObject
    have grows (k : Kind) (allowed : a.allowedKinds k) : b.allowedKinds k := by
      rw [← inner.allowed_iff] at allowed
      rw [← inner'.allowed_iff]
      exact related.allowed k allowed
    apply parallel.refines
    · intro k allowed
      rw [left.allowed_iff] at allowed
      rw [right.allowed_iff]
      exact layer.allowedKinds_fill_mono whole object grows other allowed
    · intro k named
      rw [left.named_iff] at named
      rw [right.named_iff]
      exact layer.grantedKinds_fill_mono whole object grows other named
  · obtain ⟨allowed, named⟩ := kinds_fill_eq inner inner' left right same
    apply parallel.refines
    · rw [allowed]
      exact fun _ => id
    · rw [named]
      exact fun _ => id

end Layers

end Schema

namespace Context

open Schema

variable {a b : Json} {x y : Schema} {o : Options}

theorem refines_fill (context : Context) (inner : Compiles a x) (inner' : Compiles b y)
    (related : Refines o x y)
    (kinds : (∀ layer ∈ context, layer.frame.keyword ≠ "disallow") ∨ x.allowed = y.allowed)
    {s t : Schema} (left : Compiles (context.fill a) s) (right : Compiles (context.fill b) t) :
    Refines o s t ∧ (x.allowed = y.allowed → s.allowed = t.allowed) := by
  induction context generalizing s t with
  | nil =>
    rw [← inner.unique left, ← inner'.unique right]
    exact ⟨related, id⟩
  | cons layer rest ih =>
    obtain ⟨u, nested⟩ := left.subschema (layer.subschema_fill (isObject_fill rest inner.isObject))
    obtain ⟨w, nested'⟩ := right.subschema (layer.subschema_fill (isObject_fill rest inner'.isObject))
    have below := ih (kinds.imp_left fun free l listed => free l (.tail _ listed)) nested nested'
    have here : layer.frame.keyword ≠ "disallow" ∨ u.allowed = w.allowed :=
      kinds.imp (fun free => free layer (.head _)) below.2
    exact ⟨refines_layer nested nested' left right below.1 here,
      fun same => (kinds_fill_eq nested nested' left right (below.2 same)).1⟩

end Context

namespace Schema

theorem Compiles.visit_eq_nil_iff_accepts {raw : Json} {s : Schema} {o : Options}
    (compiled : Compiles raw s) {v : Json} {p : Pointer} (within : p.depth + v.depth ≤ o.maxDepth) :
    s.visit o [] v p = [] ↔ accepts o raw v = true := by
  have here : Pointer.root.below p.segments = p := by simp [Pointer.below, Pointer.root]
  have moved := compiled.visit_below p.segments v .root within
  rw [here] at moved
  rw [moved, List.map_eq_nil_iff, compiled.accepts_iff]

theorem refines_of_accepts {a b : Json} {x y : Schema} {o : Options} (inner : Compiles a x)
    (inner' : Compiles b y) (required : x.required = y.required)
    (allowed : ∀ k, x.allowed.contains k = true → y.allowed.contains k = true)
    (passes : ∀ v, v.depth ≤ o.maxDepth → accepts o a v = true → accepts o b v = true) :
    Refines o x y := by
  refine ⟨allowed, required, fun v p within silent => ?_⟩
  rw [inner.visit_eq_nil_iff_accepts within] at silent
  rw [inner'.visit_eq_nil_iff_accepts within]
  exact passes v (by omega) silent

end Schema

namespace Context

open Schema

/-- Substitution is monotone. Where one schema passes all that another one passes, allows its kinds
and is required like it, a document passes all the more with the one in place of the other, however
deep, as long as it does not take the kinds away. Two schemas that pass the same and allow the same
kinds can be exchanged anywhere. -/
theorem accepts_fill_mono (context : Context) {a b : Json} {s t : Schema}
    (compiled : (Node.compile a).schema? = some s) (compiled' : (Node.compile b).schema? = some t)
    (fits : (Node.compile (context.fill a)).isValid = true)
    (fits' : (Node.compile (context.fill b)).isValid = true) (required : s.required = t.required)
    (o : Options) :
    ((∀ layer ∈ context, layer.frame.keyword ≠ "disallow") →
        (∀ k, s.allowed.contains k = true → t.allowed.contains k = true) →
        (∀ v, v.depth ≤ o.maxDepth → accepts o a v = true → accepts o b v = true) →
        ∀ v, v.depth ≤ o.maxDepth →
          accepts o (context.fill a) v = true → accepts o (context.fill b) v = true) ∧
      (s.allowed = t.allowed →
        (∀ v, v.depth ≤ o.maxDepth → accepts o a v = accepts o b v) →
        ∀ v, v.depth ≤ o.maxDepth →
          accepts o (context.fill a) v = accepts o (context.fill b) v) := by
  have inner := compiles_of_schema? compiled
  have inner' := compiles_of_schema? compiled'
  obtain ⟨u, left⟩ := (isValid_compile_iff _).1 fits
  obtain ⟨w, right⟩ := (isValid_compile_iff _).1 fits'
  have root {v : Json} (within : v.depth ≤ o.maxDepth) :
      Pointer.root.depth + v.depth ≤ o.maxDepth := by simpa using within
  constructor
  · intro free allowed passes v within accepted
    have related := refines_of_accepts inner inner' required allowed passes
    have refines := (context.refines_fill inner inner' related (.inl free) left right).1
    rw [← left.visit_eq_nil_iff_accepts (root within)] at accepted
    rw [← right.visit_eq_nil_iff_accepts (root within)]
    exact refines.silent v .root (root within) accepted
  · intro same agree v within
    have forth := refines_of_accepts inner inner' required (fun k kind => same ▸ kind)
      fun v within accepted => (agree v within).symm.trans accepted
    have back := refines_of_accepts inner' inner required.symm (fun k kind => same.symm ▸ kind)
      fun v within accepted => (agree v within).trans accepted
    have refines := (context.refines_fill inner inner' forth (.inr same) left right).1
    have refines' := (context.refines_fill inner' inner back (.inr same.symm) right left).1
    rw [Bool.eq_iff_iff, ← left.visit_eq_nil_iff_accepts (root within),
      ← right.visit_eq_nil_iff_accepts (root within)]
    exact ⟨refines.silent v .root (root within), refines'.silent v .root (root within)⟩

end Context

end

namespace Context

open Schema

def cellContext : Context := [
  ⟨[("additionalItems", .bool true)], .additionalProperties, [("type", .string "object")], rfl⟩,
  ⟨[("additionalItems", .object [])], .item [.object []] [], [("uniqueItems", .bool true)], rfl⟩,
  ⟨[("disallow", .string "integer")], .alternative [.string "number"] [], [], rfl⟩]

def nullOrFlag : Json := .ofType (.array [.string "null", .string "boolean"])

def nullCell : Json := .object [("row", .array [.string "first", .null])]

theorem accepts_fill_mono_cell :
    ∃ s t, (Node.compile onlyNull).schema? = some s ∧ (Node.compile nullOrFlag).schema? = some t ∧
      (Node.compile (cellContext.fill onlyNull)).isValid = true ∧
      (Node.compile (cellContext.fill nullOrFlag)).isValid = true ∧
      s.required = t.required ∧ (∀ layer ∈ cellContext, layer.frame.keyword ≠ "disallow") ∧
      (∀ k, s.allowed.contains k = true → t.allowed.contains k = true) ∧
      (∀ v, accepts .default onlyNull v = true → accepts .default nullOrFlag v = true) ∧
      nullCell.depth ≤ Options.default.maxDepth ∧
      accepts .default (cellContext.fill nullOrFlag) nullCell = true := by
  have fits : (Node.compile (cellContext.fill onlyNull)).isValid = true := by decide +kernel
  have fits' : (Node.compile (cellContext.fill nullOrFlag)).isValid = true := by decide +kernel
  have union : Compiles nullOrFlag _ := rfl
  have free : ∀ layer ∈ cellContext, layer.frame.keyword ≠ "disallow" := by decide
  have passes (v : Json) (accepted : accepts .default onlyNull v = true) :
      accepts .default nullOrFlag v = true :=
    (union.accepts_union_iff v).2 ⟨.string "null", .head _, accepted⟩
  have shallow : nullCell.depth ≤ Options.default.maxDepth := by decide
  have accepted : accepts .default (cellContext.fill onlyNull) nullCell = true := by decide +kernel
  have compiled : ∃ s t, (Node.compile onlyNull).schema? = some s ∧
      (Node.compile nullOrFlag).schema? = some t ∧ s.required = t.required ∧
      ∀ k, s.allowed.contains k = true → t.allowed.contains k = true :=
    ⟨_, _, rfl, rfl, rfl, fun k => by cases k <;> decide⟩
  obtain ⟨s, t, compiled, compiled', required, allowed⟩ := compiled
  refine ⟨s, t, compiled, compiled', fits, fits', required, free, allowed, passes, shallow, ?_⟩
  exact (accepts_fill_mono cellContext compiled compiled' fits fits' required .default).1 free allowed
    (fun v _ => passes v) nullCell shallow accepted

end Context

end JsonSchema
