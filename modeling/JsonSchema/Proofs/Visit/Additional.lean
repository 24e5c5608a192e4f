import JsonSchema.Proofs.Compile.Disallow
import JsonSchema.Proofs.Keyword.Additional
import JsonSchema.Proofs.Visit.Rearranged

set_option autoImplicit false

namespace JsonSchema.Schema

open Keyword (Members)

section

variable [PatternEngine]

section Walk

variable {o : Options} {checks : List Check} {s : Schema} {v : Json} {p : Pointer}

structure Enters (o : Options) (checks : List Check) (s : Schema) (v : Json) (p : Pointer) : Prop where
  structural : o.structural = true
  shallow : p.depth ≤ o.maxDepth
  allowed : s.allowed.admits (Kind.of v) = true
  typed : s.typePasses o checks v p = true

theorem Enters.mem_visit_of_mem_messages (enters : Enters o checks s v p) {text : String}
    (member : text ∈ s.messages v) : ⟨.keyword, p, text⟩ ∈ s.visit o checks v p := by
  rw [(Visited.typed enters.shallow enters.allowed enters.typed).eq]
  refine List.mem_append_left _ ?_
  rw [ownDiagnostics, enters.structural, if_pos rfl]
  exact List.mem_append_left _ (List.mem_append_right _ (List.mem_map_of_mem member))

variable {step : Step} {w : Json} (ordered : v.Ordered) (place : (step, w) ∈ v.places)
include ordered place

theorem filter_typed (checks : List Check) (s : Schema) (shallow : p.depth ≤ o.maxDepth) :
    (ownDiagnostics o checks s v p ++ v.places.flatMap fun x =>
      stepDiagnostics o checks s p x.1 x.2).filter (fun d => (p.step step).Above d.pointer) =
        stepDiagnostics o checks s p step w := by
  have shaped := stepDiagnostics_shaped o checks s shallow
  rw [Shaped.filter_inside ordered (fun _ => pointer_of_mem_ownDiagnostics)
    (fun step w _ => shaped step w) place fun _ => of_decide_eq_true]
  exact List.filter_eq_self.2 fun d member => decide_eq_true ((shaped step w).above member)

theorem Enters.filter_visit (enters : Enters o checks s v p) :
    (s.visit o checks v p).filter (fun d => (p.step step).Above d.pointer) =
      ((s.at? step).map (visit o checks · w (p.step step))).getD [] := by
  rw [(Visited.typed enters.shallow enters.allowed enters.typed).eq,
    filter_typed ordered place checks s enters.shallow, stepDiagnostics, enters.structural, if_pos rfl]

theorem not_above_of_at?_eq_none (absent : s.at? step = none) {d : Diagnostic}
    (member : d ∈ s.visit o checks v p) : ¬(p.step step).Above d.pointer := by
  intro above
  have outcome := visited o checks s v p
  generalize s.visit o checks v p = found at outcome member
  cases outcome with
  | tooDeep | kindMismatch | alternativeMismatch =>
    rw [List.mem_singleton.1 member] at above
    exact p.not_step_above step above
  | typed shallow =>
    have silent : stepDiagnostics o checks s p step w = [] := by
      rw [stepDiagnostics, absent]
      exact ite_self _
    have nothing := filter_typed ordered place checks s shallow
    rw [silent, List.filter_eq_nil_iff] at nothing
    exact nothing d member (decide_eq_true above)

end Walk

section Erase

variable {raw : Json} {s : Schema} (compiled : Compiles raw s)
include compiled

theorem Compiles.eraseAdditionalItems : Compiles (raw.erase "additionalItems")
    { s with raw := raw.erase "additionalItems", additionalItems := .allowed } := by
  obtain ⟨declared, disallowed, parts⟩ := compiles_iff.1 compiled
  have same {name : String} (other : name ≠ "additionalItems") :
      (raw.erase "additionalItems").member? name = raw.member? name := by
    rw [Json.member?_erase, if_neg other]
  have object : (raw.erase "additionalItems").isObject = true := by
    rw [Json.isObject_erase]
    exact parts.object
  have type : AreTypes .all ((raw.erase "additionalItems").member? "type") declared := by
    rw [same (by decide)]
    exact parts.type
  have disallow : AreTypes .empty ((raw.erase "additionalItems").member? "disallow") disallowed := by
    rw [same (by decide)]
    exact parts.disallow
  have absent : (raw.erase "additionalItems").member? "additionalItems" = none := by
    rw [Json.member?_erase, if_pos rfl]
  have nonempty := parts.nonempty
  rw [parts.allowed] at nonempty
  have replaced := compiled.replace object (fun name other => same fun here => other (by simp [here]))
    type disallow nonempty (.allowed (.inl absent))
  rwa [← parts.allowed, ← parts.named, ← parts.alternatives] at replaced

end Erase

-- Without a tuple nothing that a walk looks at depends on the additional items.
theorem visit_of_no_tuple {o : Options} {checks : List Check} {s : Schema} {v : Json} {p : Pointer}
    {r : Json} {additionalItems : Additional Schema} (untupled : ∀ schemas, s.items ≠ .tuple schemas)
    (blind : ∀ check ∈ checks,
      check { s with raw := r, additionalItems := additionalItems } v p = check s v p) :
    visit o checks { s with raw := r, additionalItems := additionalItems } v p =
      s.visit o checks v p := by
  have own : ownDiagnostics o checks { s with raw := r, additionalItems := additionalItems } v p =
      ownDiagnostics o checks s v p := by
    unfold ownDiagnostics
    refine congrArg₂ (· ++ ·) ?_ (List.flatMap_congr fun check member => by rw [blind check member])
    cases s with
    | mk _ _ _ _ _ _ items =>
      cases items with
      | tuple schemas => exact absurd rfl (untupled schemas)
      | any | uniform => cases v <;> rfl
  rw [visit_eq, visit_eq, own]
  cases s with
  | mk _ _ _ _ _ _ items =>
    cases items with
    | tuple schemas => exact absurd rfl (untupled schemas)
    | any | uniform => rfl

structure MembersShared (raw : Json) (s : Schema) (members : Members) (extra : List String) :
    Prop where
  told : ∀ o checks p, Enters o checks s (.object members) p → ∀ name ∈ extra,
    ⟨.keyword, p, extraText name⟩ ∈ s.visit o checks (.object members) p
  unvisited : ∀ o checks p, ∀ name ∈ extra, ∀ d ∈ s.visit o checks (.object members) p,
    ¬(p.key name).Above d.pointer
  visited : raw.member? "additionalProperties" = some (.bool false) → ∀ name w,
    (name, w) ∈ members → name ∉ extra → ∃ t, s.propertySchema? name = some t ∧
      ∀ o checks p, Enters o checks s (.object members) p →
        (s.visit o checks (.object members) p).filter (fun d => (p.key name).Above d.pointer) =
          t.visit o checks w (p.key name)

structure IgnoresAdditionalItems (raw : Json) : Prop where
  valid : (Node.compile (raw.erase "additionalItems")).isValid = true
  report : ∀ (o : Options) (checks : List Check) (v : Json),
    (∀ s t, (Node.compile raw).schema? = some s →
      (Node.compile (raw.erase "additionalItems")).schema? = some t →
      ∀ check ∈ checks, check t v .root = check s v .root) →
    { Validator.ofSchema (raw.erase "additionalItems") with options := o, checks := checks }.check v =
      { Validator.ofSchema raw with options := o, checks := checks }.check v
  within : ∀ context : Context, (Node.compile (context.fill raw)).isValid = true →
    (Node.compile (context.fill (raw.erase "additionalItems"))).isValid = true ∧
      ∀ o v, findings o (context.fill (raw.erase "additionalItems")) v =
        findings o (context.fill raw) v

section Whole

variable {raw : Json} {s : Schema} (compiled : Compiles raw s)
include compiled

theorem MembersTold.shared {members : Members} {missing extra : List String}
    (told : MembersTold raw s members missing extra) (ordered : (Json.object members).Ordered) :
    MembersShared raw s members extra where
  told o checks p enters name listed := by
    refine enters.mem_visit_of_mem_messages ?_
    rw [← compiled.keywordMessages_eq, told.texts]
    exact List.mem_append_right _ (List.mem_map_of_mem listed)
  unvisited o checks p name listed d member := by
    obtain ⟨present, absent, _⟩ := (told.mem_extra_iff name).1 listed
    obtain ⟨⟨name, w⟩, inside, rfl⟩ := List.mem_map.1 present
    have place := (Json.mem_places_object ..).2 ⟨_, inside, rfl⟩
    have nowhere : s.at? (.key name) = none := absent
    exact not_above_of_at?_eq_none ordered place nowhere member
  visited forbidden name w inside kept := by
    have present : s.propertySchema? name ≠ none := by
      intro absent
      exact kept ((told.mem_extra_iff name).2 ⟨List.mem_map_of_mem inside, absent, forbidden⟩)
    obtain ⟨t, found⟩ := Option.ne_none_iff_exists'.1 present
    have place := (Json.mem_places_object ..).2 ⟨name, inside, rfl⟩
    refine ⟨t, found, fun o checks p enters => ?_⟩
    have reported := enters.filter_visit ordered place
    rw [at?, found] at reported
    exact reported

theorem Compiles.ignoresAdditionalItems
    (untupled : ∀ subs, raw.member? "items" ≠ some (.array subs)) : IgnoresAdditionalItems raw := by
  obtain ⟨_, _, parts⟩ := compiles_iff.1 compiled
  have erased := compiled.eraseAdditionalItems
  have no_tuple (schemas : List Schema) (tuple : s.items = .tuple schemas) : False := by
    obtain ⟨subs, declared⟩ := parts.items.tuple_iff.2 ⟨schemas, tuple⟩
    exact untupled subs declared
  have related : Indistinct s
      { s with raw := raw.erase "additionalItems", additionalItems := .allowed } := by
    refine ⟨rfl, rfl, rfl, fun o v p => (visit_of_no_tuple no_tuple ?_).symm⟩
    nofun
  refine ⟨(isValid_compile_iff _).2 ⟨_, erased⟩, fun o checks v blind => ?_, fun context fits => ?_⟩
  · rw [erased.check_eq, compiled.check_eq, visit_of_no_tuple no_tuple]
    exact blind s _ compiled.schema?_compile erased.schema?_compile
  · obtain ⟨u, left⟩ := (isValid_compile_iff _).1 fits
    obtain ⟨w, right, same⟩ := context.indistinct_fill compiled erased related left
    refine ⟨(isValid_compile_iff _).2 ⟨w, right⟩, fun o v => ?_⟩
    rw [left.findings_eq, right.findings_eq, same.visit]

end Whole

/-- The messages about missing, extra and additional values agree with the look-ups. The members
that the keywords tell of are exactly those that the walk does not go into, the elements behind the
tuple are told of once where one of them has no schema, and without a tuple `additionalItems` is as
good as absent. -/
theorem told_where_unvisited {raw : Json} {s : Schema}
    (found : (Node.compile raw).schema? = some s) (sorted : raw.Sorted) :
    (∀ members, (Json.object members).Ordered → ∃ missing extra,
        MembersTold raw s members missing extra ∧ MembersShared raw s members extra) ∧
      (∀ elements, ∃ others told, ElementsTold raw s elements others told) ∧
      ((∀ subs, raw.member? "items" ≠ some (.array subs)) → IgnoresAdditionalItems raw) := by
  have compiled := compiles_of_schema? found
  refine ⟨fun members ordered => ?_, compiled.elementsTold, compiled.ignoresAdditionalItems⟩
  obtain ⟨missing, extra, told⟩ := compiled.membersTold members sorted (ordered members rfl)
  exact ⟨missing, extra, told, told.shared compiled ordered⟩

end

def entrySchema : Json :=
  .object [
    ("additionalItems", .bool false),
    ("additionalProperties", .bool false),
    ("items", .array [.object []]),
    ("properties", .object [
      ("name", .object [("required", .bool true)]),
      ("note", .object [])])]

theorem told_where_unvisited_entry :
    entrySchema.Sorted ∧ ∃ s, (Node.compile entrySchema).schema? = some s ∧
      (∃ missing extra,
        MembersTold entrySchema s [("age", .null), ("note", .null)] missing extra ∧
          MembersShared entrySchema s [("age", .null), ("note", .null)] extra ∧
          "name" ∈ missing ∧ "age" ∈ extra ∧ "note" ∉ extra) ∧
      ∃ others told, ElementsTold entrySchema s [.null, .null] others told ∧
        told = [behindTupleText 1 2] := by
  have sorted : entrySchema.Sorted := by decide +kernel
  have valid : (Node.compile entrySchema).isValid = true := rfl
  obtain ⟨s, found⟩ := Option.isSome_iff_exists.1 valid
  obtain ⟨members, elements, _⟩ := told_where_unvisited found sorted
  have ordered : (Json.object [("age", .null), ("note", .null)]).Ordered :=
    Json.Sorted.ordered (by decide)
  have compiled := compiles_of_schema? found
  have unlisted : s.propertySchema? "age" = none := (compiled.at?_eq_none_iff (.key "age")).2 rfl
  have listed : s.propertySchema? "note" ≠ none := fun absent =>
    nomatch (compiled.at?_eq_none_iff (.key "note")).1 absent
  have behind : s.itemSchema? 1 = none := (compiled.at?_eq_none_iff (.index 1)).2 rfl
  obtain ⟨missing, extra, told, shared⟩ := members _ ordered
  obtain ⟨others, last, array⟩ := elements [.null, .null]
  refine ⟨sorted, s, found, ⟨missing, extra, told, shared, ?_, ?_, ?_⟩, others, last, array, ?_⟩
  · exact (told.mem_missing_iff "name").2 ⟨⟨_, rfl, rfl⟩, by decide⟩
  · exact (told.mem_extra_iff "age").2 ⟨by decide, unlisted, rfl⟩
  · exact fun extra => listed ((told.mem_extra_iff "note").1 extra).2.1
  · obtain ⟨subs, declared, same⟩ := array.told_of_behind ⟨⟨_, rfl⟩, rfl, 1, by decide, behind⟩
    cases declared
    exact same

end JsonSchema.Schema
