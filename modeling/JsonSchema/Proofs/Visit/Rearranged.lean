import JsonSchema.Proofs.Compile.Rearranged
import JsonSchema.Proofs.Visit.Substitution

set_option autoImplicit false

namespace JsonSchema

inductive Corresponding (raw raw' : Json) : Json → Json → Prop where
  | root : Corresponding raw raw' raw raw'
  | nested {u u' sub sub' : Json} {position position' : Position}
      (outer : Corresponding raw raw' u u') (same : position.Corresponds position')
      (inside : Subschema u position sub) (inside' : Subschema u' position' sub')
      (rearranged : Rearranged sub sub') : Corresponding raw raw' sub sub'

namespace Corresponding

variable {raw raw' u u' : Json}

theorem rearranged (corresponding : Corresponding raw raw' u u') (whole : Rearranged raw raw') :
    Rearranged u u' := by
  cases corresponding with
  | root => exact whole
  | nested _ _ _ _ inner => exact inner

theorem forth (corresponding : Corresponding raw raw' u u') (whole : Rearranged raw raw')
    {position : Position} {sub : Json} (inside : Subschema u position sub) :
    ∃ position' sub', position.Corresponds position' ∧ Subschema u' position' sub' ∧
      Corresponding raw raw' sub sub' := by
  obtain ⟨position', sub', same, there, inner⟩ := (corresponding.rearranged whole).subschema inside
  exact ⟨position', sub', same, there, .nested corresponding same inside there inner⟩

theorem back (corresponding : Corresponding raw raw' u u') (whole : Rearranged raw raw')
    {position' : Position} {sub' : Json} (inside' : Subschema u' position' sub') :
    ∃ position sub, position.Corresponds position' ∧ Subschema u position sub ∧
      Corresponding raw raw' sub sub' := by
  obtain ⟨position, sub, same, there, inner⟩ :=
    (corresponding.rearranged whole).symm.subschema inside'
  exact ⟨position, sub, same.symm, there, .nested corresponding same.symm there inside' inner.symm⟩

end Corresponding

section

variable [PatternEngine]

namespace Schema

variable {s t : Schema}

structure Indistinct (s t : Schema) : Prop where
  allowed : s.allowed = t.allowed
  named : s.named = t.named
  required : s.required = t.required
  visit : ∀ o v p, s.visit o [] v p = t.visit o [] v p

namespace Indistinct

theorem refl (s : Schema) : Indistinct s s := ⟨rfl, rfl, rfl, fun _ _ _ => rfl⟩

theorem symm (same : Indistinct s t) : Indistinct t s where
  allowed := same.allowed.symm
  named := same.named.symm
  required := same.required.symm
  visit o v p := (same.visit o v p).symm

theorem trans {u : Schema} (first : Indistinct s t) (second : Indistinct t u) : Indistinct s u where
  allowed := first.allowed.trans second.allowed
  named := first.named.trans second.named
  required := first.required.trans second.required
  visit o v p := (first.visit o v p).trans (second.visit o v p)

end Indistinct

section Parallel

variable (parallel : Parallel Indistinct s t) (named : s.named = t.named)
include parallel named

theorem Parallel.typePasses_eq (o : Options) (v : Json) (p : Pointer) :
    s.typePasses o [] v p = t.typePasses o [] v p := by
  rw [Bool.eq_iff_iff, typePasses_iff, typePasses_iff, named]
  refine or_congr_right ⟨?_, ?_⟩
  · intro passed
    obtain ⟨i, x, member, silent⟩ := passed
    obtain ⟨j, y, partner, same⟩ := parallel.forth i x member
    exact ⟨j, y, partner, (same.visit o v p).symm.trans silent⟩
  · intro passed
    obtain ⟨j, y, member, silent⟩ := passed
    obtain ⟨i, x, partner, same⟩ := parallel.back j y member
    exact ⟨i, x, partner, (same.visit o v p).trans silent⟩

theorem Parallel.indistinct (allowed : s.allowed = t.allowed) : Indistinct s t := by
  refine ⟨allowed, named, parallel.required, fun o v p => ?_⟩
  have inside : s.inner o [] v p = t.inner o [] v p := by
    rw [inner_eq, inner_eq]
    refine List.flatMap_congr fun x _ => ?_
    have related := parallel.rel_at? x.1
    generalize s.at? x.1 = left, t.at? x.1 = right at related
    cases related with
    | none => rfl
    | some same => exact congrArg (Option.getD · []) (congrArg some (same.visit o x.2 _))
  rw [visit_eq, visit_eq, parallel.typePasses_eq named, inside, allowed,
    parallel.ownDiagnostics_eq fun _ _ => Indistinct.required, kindMismatch, kindMismatch, allowed]

end Parallel

end Schema

open Schema

theorem Listing.indistinct_fill {listing : Listing} {elements elements' : List Json}
    (same : SameMembers elements elements') {s : Schema} (left : Compiles (listing.fill elements) s) :
    ∃ t, Compiles (listing.fill elements') t ∧ Indistinct s t := by
  obtain ⟨t, right⟩ :=
    wellFormed_iff.1 (listing.wellFormed_fill same (wellFormed_iff.2 ⟨s, left⟩))
  have forth := listing.typesWithin_fill same
  have back := listing.typesWithin_fill same.symm
  refine ⟨t, right, ?_⟩
  exact (parallel_listing same left right Indistinct.refl).indistinct
    (left.named_eq right (Json.grantedKinds_iff_of_within forth back))
    (left.allowed_eq right (Json.allowedKinds_iff_of_within forth back))

theorem Layer.indistinct_fill {layer : Layer} {a b : Json} {s x y : Schema}
    (inner : Compiles a x) (inner' : Compiles b y) (related : Indistinct x y)
    (left : Compiles (layer.fill a) s) : ∃ t, Compiles (layer.fill b) t ∧ Indistinct s t := by
  have kinds (k : Kind) : a.allowedKinds k ↔ b.allowedKinds k := by
    rw [← inner.allowed_iff, ← inner'.allowed_iff, related.allowed]
  obtain ⟨t, right⟩ := wellFormed_iff.1 (layer.wellFormed_fill inner.isObject inner'.isObject kinds
    (wellFormed_iff.2 ⟨s, left⟩) (wellFormed_iff.2 ⟨y, inner'⟩))
  obtain ⟨allowed, named⟩ := kinds_fill_eq inner inner' left right related.allowed
  refine ⟨t, right, ?_⟩
  exact (parallel_fill Indistinct.refl inner inner' related left right).indistinct named allowed

theorem Context.exists_compiles (context : Context) {a : Json} {s : Schema}
    (object : a.isObject = true) (compiled : Compiles (context.fill a) s) : ∃ x, Compiles a x := by
  induction context generalizing s with
  | nil => exact ⟨s, compiled⟩
  | cons layer rest ih =>
    obtain ⟨_, nested⟩ := compiled.subschema (layer.subschema_fill (isObject_fill rest object))
    exact ih nested

theorem Context.indistinct_fill (context : Context) {a b : Json} {s x y : Schema}
    (inner : Compiles a x) (inner' : Compiles b y) (related : Indistinct x y)
    (left : Compiles (context.fill a) s) : ∃ t, Compiles (context.fill b) t ∧ Indistinct s t := by
  induction context generalizing s with
  | nil =>
    rw [← inner.unique left]
    exact ⟨y, inner', related⟩
  | cons layer rest ih =>
    obtain ⟨u, nested⟩ := left.subschema (layer.subschema_fill (isObject_fill rest inner.isObject))
    obtain ⟨w, nested', below⟩ := ih nested
    exact Layer.indistinct_fill nested nested' below left

theorem RearrangedOnce.indistinct {raw raw' : Json} (rearranged : RearrangedOnce raw raw')
    {s : Schema} (compiled : Compiles raw s) : ∃ t, Compiles raw' t ∧ Indistinct s t := by
  cases rearranged with
  | intro context listing same =>
    obtain ⟨x, inner⟩ := context.exists_compiles rfl compiled
    obtain ⟨y, inner', related⟩ := listing.indistinct_fill same inner
    exact context.indistinct_fill inner inner' related compiled

theorem Rearranged.indistinct {raw raw' : Json} (rearranged : Rearranged raw raw') {s : Schema}
    (compiled : Compiles raw s) : ∃ t, Compiles raw' t ∧ Indistinct s t := by
  induction rearranged with
  | refl => exact ⟨s, compiled, .refl s⟩
  | tail _ last ih =>
    obtain ⟨t, middle, first⟩ := ih
    obtain ⟨u, compiled', second⟩ := last.indistinct middle
    exact ⟨u, compiled', first.trans second⟩

theorem Corresponding.exists_compiles {raw raw' u u' : Json}
    (corresponding : Corresponding raw raw' u u') {s : Schema}
    (compiled : Compiles raw s) : ∃ t, Compiles u t := by
  induction corresponding with
  | root => exact ⟨s, compiled⟩
  | nested _ _ inside _ _ ih =>
    obtain ⟨t, outer⟩ := ih
    exact outer.subschema inside

def SameKinds (raw raw' : Json) : Prop :=
  ∃ s t, (Node.compile raw).schema? = some s ∧ (Node.compile raw').schema? = some t ∧
    s.allowed = t.allowed ∧ s.named = t.named

/-- The arrays of `type`, `disallow` and `enum` are sets, anywhere in a document. Written in another
way, with their elements in another order or several times, they leave the document valid, the
kinds of all schemas in it as they are, and every report the same. -/
theorem Schema.findings_rearranged {raw raw' : Json} (valid : (Node.compile raw).isValid = true)
    (rearranged : Rearranged raw raw') :
    (Node.compile raw').isValid = true ∧
      (∀ u u', Corresponding raw raw' u u' → SameKinds u u' ∧
        (∀ position sub, Subschema u position sub → ∃ position' sub',
          position.Corresponds position' ∧ Subschema u' position' sub' ∧
            Corresponding raw raw' sub sub') ∧
        (∀ position' sub', Subschema u' position' sub' → ∃ position sub,
          position.Corresponds position' ∧ Subschema u position sub ∧
            Corresponding raw raw' sub sub')) ∧
      ∀ (o : Options) (v : Json), findings o raw' v = findings o raw v := by
  obtain ⟨s, compiled⟩ := (isValid_compile_iff raw).1 valid
  obtain ⟨t, compiled', same⟩ := rearranged.indistinct compiled
  refine ⟨(isValid_compile_iff raw').2 ⟨t, compiled'⟩, fun u u' corresponding => ?_, fun o v => ?_⟩
  · obtain ⟨x, inner⟩ := corresponding.exists_compiles compiled
    obtain ⟨y, inner', kinds⟩ := (corresponding.rearranged rearranged).indistinct inner
    refine ⟨⟨x, y, inner.schema?_compile, inner'.schema?_compile, kinds.allowed, kinds.named⟩, ?_, ?_⟩
    · exact fun _ _ inside => corresponding.forth rearranged inside
    · exact fun _ _ inside' => corresponding.back rearranged inside'
  · rw [compiled.findings_eq, compiled'.findings_eq, same.visit]

end

def wordOf (words : List Json) : Json := .object [("enum", .array words)]

def wordRow (types : List Json) : Json := .object [("items", .object [("type", .array types)])]

def plainRow : Json := wordRow [.string "null", wordOf [.string "a", .string "b"]]

def repeatedRow : Json :=
  let word := wordOf [.string "b", .string "a", .string "b"]
  wordRow [word, .string "null", word]

theorem rearranged_plainRow : Rearranged plainRow repeatedRow := by
  have words : SameMembers [Json.string "a", .string "b"] [.string "b", .string "a", .string "b"] := by
    intro e
    simp only [List.mem_cons, List.not_mem_nil, or_false]
    tauto
  have types (word : Json) : SameMembers [.string "null", word] [word, .string "null", word] := by
    intro e
    simp only [List.mem_cons, List.not_mem_nil, or_false]
    tauto
  have inner : RearrangedOnce plainRow
      (wordRow [.string "null", wordOf [.string "b", .string "a", .string "b"]]) :=
    .intro [⟨[], .items, [], rfl⟩, ⟨[], .alternative [.string "null"] [], [], rfl⟩]
      ⟨[], "enum", by decide, [], rfl⟩ words
  exact (Relation.ReflTransGen.single inner).tail
    (.intro [⟨[], .items, [], rfl⟩] ⟨[], "type", by decide, [], rfl⟩ (types _))

theorem Schema.findings_rearranged_row :
    (Node.compile plainRow).isValid = true ∧ Rearranged plainRow repeatedRow ∧
      (Node.compile repeatedRow).isValid = true ∧
      findings .default repeatedRow (.array [.string "b", .string "c"]) =
        findings .default plainRow (.array [.string "b", .string "c"]) ∧
      (findings .default plainRow (.array [.string "b", .string "c"])).map (·.pointer) =
        [Pointer.root.index 1] := by
  have valid : (Node.compile plainRow).isValid = true := rfl
  have same := Schema.findings_rearranged valid rearranged_plainRow
  exact ⟨valid, rearranged_plainRow, same.1, same.2.2 _ _, by decide +kernel⟩

end JsonSchema
