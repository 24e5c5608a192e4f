import JsonSchema.Proofs.Compile.Defects

set_option autoImplicit false

namespace JsonSchema

open Schema

namespace Entry

def ruleOrder : List Entry := [
  .number "minimum", .flag "exclusiveMinimum", .number "maximum", .flag "exclusiveMaximum",
  .divisor, .count "minLength", .count "maxLength", .pattern, .count "minItems", .count "maxItems",
  .flag "uniqueItems"]

def compileOrder : List Entry := ruleOrder ++ [
  .items, .additional "additionalItems", .flag "required", .properties,
  .additional "additionalProperties"]

/-- The keywords in the order in which they are documented, by the kind of value they are about.
There `required` belongs to the schemas in `properties` and has no place of its own. -/
def tableOrder : List Entry := [
  .number "minimum", .number "maximum", .flag "exclusiveMinimum", .flag "exclusiveMaximum",
  .divisor,
  .count "minLength", .count "maxLength", .pattern,
  .count "minItems", .count "maxItems", .flag "uniqueItems", .items, .additional "additionalItems",
  .properties, .additional "additionalProperties"]

end Entry

open Keyword Entry

section

variable [PatternEngine]

structure Json.LimitsCrossed (raw : Json) : Prop where
  minimum : raw.SoundIn (.number "minimum")
  exclusive : ∃ cause, raw.DefectIn (.flag "exclusiveMinimum") cause
  maximum : ∃ cause, raw.DefectIn (.number "maximum") cause

section Row

variable {raw : Json} {members : Members} {cause : SchemaError}

theorem stopsAt_read (members : Members) :
    StopsAt (Json.object members).DefectIn ruleOrder (ValueRules.read members) := by
  unfold ValueRules.read
  refine .cons (fun _ => number?_eq_error_iff) fun minimum => ?_
  refine .cons (fun _ => flag_eq_error_iff) fun exclusiveMinimum => ?_
  refine .cons (fun _ => number?_eq_error_iff) fun maximum => ?_
  refine .cons (fun _ => flag_eq_error_iff) fun exclusiveMaximum => ?_
  refine .cons (fun _ => divisor?_eq_error_iff) fun divisor => ?_
  refine .cons (fun _ => count?_eq_error_iff) fun minLength => ?_
  refine .cons (fun _ => count?_eq_error_iff) fun maxLength => ?_
  refine .cons (fun _ => pattern?_eq_error_iff) fun pattern => ?_
  refine .cons (fun _ => count?_eq_error_iff) fun minItems => ?_
  refine .cons (fun _ => count?_eq_error_iff) fun maxItems => ?_
  refine .cons (fun _ => flag_eq_error_iff) fun uniqueItems => ?_
  exact stopsAt_ok _

theorem stopsAt_compile (sorted : raw.Sorted)
    (sound : (Node.compile (raw.restrict ["type", "disallow", "enum"])).isValid = true) :
    StopsAt raw.DefectIn compileOrder (compile raw) := by
  obtain ⟨s, compiled⟩ := (isValid_compile_iff _).1 sound
  obtain ⟨declared, disallowed, parts⟩ := compiles_iff.1 compiled
  have object := parts.object
  rw [Json.isObject_restrict] at object
  obtain ⟨members, rfl⟩ := (Json.isObject_iff _).1 object
  have kept {name : String} (listed : name ∈ ["type", "disallow", "enum"]) :
      ((Json.object members).restrict ["type", "disallow", "enum"]).member? name =
        members.lookup name := by
    rw [Json.member?_restrict, if_pos listed]
    rfl
  have type := parts.type
  have disallow := parts.disallow
  have enumeration := parts.enumeration
  have nonempty := parts.nonempty
  rw [kept (by decide)] at type disallow enumeration
  rw [parts.allowed] at nonempty
  have types : typesIn "type" .universal members = .ok declared := typesIn_eq_ok_iff.2 type
  have taken : typesIn "disallow" .nothing members = .ok disallowed := typesIn_eq_ok_iff.2 disallow
  rw [compile]
  refine StopsAt.after types (.after taken ?_)
  rw [if_neg (by simp [nonempty])]
  refine .after (enumeration?_eq_ok_iff.2 enumeration) ?_
  refine StopsAt.append (stopsAt_read members) fun rules => ?_
  refine .cons (fun _ => itemsIn_eq_error_iff) fun items => ?_
  refine .cons (fun _ => additionalIn_eq_error_iff) fun additionalItems => ?_
  refine .cons (fun _ => flag_eq_error_iff) fun required => ?_
  refine .cons (fun _ => propertiesIn_eq_error_iff sorted) fun properties => ?_
  refine .cons (fun _ => additionalIn_eq_error_iff) fun additionalProperties => ?_
  exact stopsAt_ok _

-- Apart from that one case the two orders have the same first defect.
theorem first_table_iff (required : raw.SoundIn (.flag "required")) (straight : ¬raw.LimitsCrossed) :
    First raw.DefectIn tableOrder cause ↔ First raw.DefectIn compileOrder cause := by
  have split : compileOrder = (ruleOrder ++ [.items, .additional "additionalItems"]) ++
      .flag "required" :: [.properties, .additional "additionalProperties"] := rfl
  rw [split, first_erase required, tableOrder, first_cons_iff]
  refine Iff.trans (or_congr_right (and_congr_right fun minimum => ?_)) first_cons_iff.symm
  apply first_swap
  by_cases exclusive : raw.SoundIn (.flag "exclusiveMinimum")
  · exact .inr exclusive
  · have bad := Classical.not_forall_not.1 exclusive
    exact .inl fun cause maximum => straight ⟨minimum, bad, cause, maximum⟩

theorem eq_of_defectIn_flag {keyword : String} (bad : raw.DefectIn (.flag keyword) cause) :
    cause = .badKeyword keyword "a boolean" := by
  obtain ⟨v, _, _, same⟩ := bad
  exact same

theorem eq_of_defectIn_number {keyword : String} (bad : raw.DefectIn (.number keyword) cause) :
    cause = .badKeyword keyword "a number" := by
  obtain ⟨v, _, _, same⟩ := bad
  exact same

theorem Json.LimitsCrossed.first_compile (crossed : raw.LimitsCrossed) :
    First raw.DefectIn compileOrder (.badKeyword "exclusiveMinimum" "a boolean") := by
  obtain ⟨other, bad⟩ := crossed.exclusive
  rw [compileOrder, ruleOrder, List.cons_append, first_cons_of_sound crossed.minimum, List.cons_append]
  exact first_cons_iff.2 (.inl (eq_of_defectIn_flag bad ▸ bad))

theorem Json.LimitsCrossed.first_table (crossed : raw.LimitsCrossed)
    (first : First raw.DefectIn tableOrder cause) : cause = .badKeyword "maximum" "a number" := by
  rw [tableOrder, first_cons_of_sound crossed.minimum, first_cons_iff] at first
  rcases first with bad | ⟨sound, _⟩
  · exact eq_of_defectIn_number bad
  · obtain ⟨other, bad⟩ := crossed.maximum
    exact absurd bad (sound other)

end Row

/-- A schema whose types and enumeration are sound is valid exactly where none of its other keywords
has a defect, and otherwise the first defect in the order of compiling is its one message. That is
the first defect in the documented order, but for a schema with `exclusiveMinimum` and `maximum`
both defective and `minimum` sound. -/
theorem messages_of_defects {raw : Json} (sorted : raw.Sorted)
    (sound : (Node.compile (raw.restrict ["type", "disallow", "enum"])).isValid = true) :
    ((Node.compile raw).isValid = true ↔ ∀ entry ∈ compileOrder, raw.SoundIn entry) ∧
      (∀ cause, First raw.DefectIn compileOrder cause →
        (Node.compile raw).messages = [cause.message]) ∧
      (raw.SoundIn (.flag "required") → ∀ cause, First raw.DefectIn tableOrder cause →
        ((Node.compile raw).messages = [cause.message] ↔ ¬raw.LimitsCrossed)) := by
  have stops := stopsAt_compile sorted sound
  have told {cause : SchemaError} (first : First raw.DefectIn compileOrder cause) :
      (Node.compile raw).messages = [cause.message] := by
    rw [Node.compile, Node.messages, (stops cause).2 first]
  refine ⟨?_, fun _ => told, fun required cause first => ?_⟩
  · rw [isValid_compile_iff]
    exact stops.exists_ok_iff
  · constructor
    · intro same crossed
      rw [told crossed.first_compile, crossed.first_table first] at same
      revert same
      decide
    · intro straight
      exact told ((first_table_iff required straight).1 first)

end

def nestedDefects : Json :=
  .object [
    ("additionalProperties", .array []),
    ("items", .array [
      .object [("type", .string "string")],
      .object [("divisibleBy", .number (.integer (-1) (by decide)))]]),
    ("properties", .object [("name", .object [("type", .string "pwet")])])]

set_option maxRecDepth 4000 in
theorem messages_of_defects_nested :
    nestedDefects.Sorted ∧
      (Node.compile (nestedDefects.restrict ["type", "disallow", "enum"])).isValid = true ∧
      nestedDefects.SoundIn (.flag "required") ∧
      First nestedDefects.DefectIn tableOrder
        (.badKeyword "divisibleBy" "a number greater than zero") ∧
      (Node.compile nestedDefects).messages =
        ["divisibleBy property must be a number greater than zero"] := by
  have sorted : nestedDefects.Sorted := by decide +kernel
  have valid : (Node.compile (nestedDefects.restrict ["type", "disallow", "enum"])).isValid = true :=
    rfl
  have required : nestedDefects.SoundIn (.flag "required") := soundIn_of_absent rfl
  have first : First nestedDefects.DefectIn tableOrder
      (.badKeyword "divisibleBy" "a number greater than zero") := by
    have unused : ∀ name ∈ (tableOrder.take 11).map Entry.keyword,
        nestedDefects.member? name = none := by decide
    have before : ∀ entry ∈ tableOrder.take 11, nestedDefects.SoundIn entry :=
      fun entry listed => soundIn_of_absent (unused _ (List.mem_map_of_mem listed))
    have second : Entry.items.Defect (.array [.object [("type", .string "string")],
        .object [("divisibleBy", .number (.integer (-1) (by decide)))]])
        (.badKeyword "divisibleBy" "a number greater than zero") :=
      .inr (.inr ⟨_, rfl, (first_cons_of_sound ((not_refused_iff _).2 ⟨_, rfl⟩)).2
        (first_cons_iff.2 (.inl rfl))⟩)
    exact first_append_iff.2 (.inr ⟨before, first_cons_iff.2 (.inl ⟨_, rfl, second⟩)⟩)
  have straight : ¬nestedDefects.LimitsCrossed := by
    intro crossed
    obtain ⟨cause, bad⟩ := crossed.maximum
    exact soundIn_of_absent rfl cause bad
  refine ⟨sorted, valid, required, first, ?_⟩
  exact ((messages_of_defects sorted valid).2.2 required _ first).2 straight

-- The documentation has `maximum` first.
def crossedLimits : Json :=
  .object [("exclusiveMinimum", .string "yes"), ("maximum", .array [])]

theorem documented_order_not_kept :
    crossedLimits.Sorted ∧
      (Node.compile (crossedLimits.restrict ["type", "disallow", "enum"])).isValid = true ∧
      crossedLimits.SoundIn (.flag "required") ∧
      First crossedLimits.DefectIn tableOrder (.badKeyword "maximum" "a number") ∧
      (Node.compile crossedLimits).messages = ["exclusiveMinimum property must be a boolean"] := by
  have absent {entry : Entry} (absent : crossedLimits.member? entry.keyword = none) :
      crossedLimits.SoundIn entry := soundIn_of_absent absent
  have maximum : (Entry.number "maximum").Defect (.array []) (.badKeyword "maximum" "a number") :=
    ⟨fun n => nofun, rfl⟩
  refine ⟨by decide +kernel, rfl, absent rfl, ?_, rfl⟩
  rw [tableOrder, first_cons_of_sound (absent rfl)]
  exact first_cons_iff.2 (.inl ⟨_, rfl, maximum⟩)

end JsonSchema
