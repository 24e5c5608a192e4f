import JsonSchema.Proofs.Compile.Grammar

set_option autoImplicit false

namespace JsonSchema

namespace Json

structure KeepsForm (v v' : Json) : Prop where
  text : ∀ text, v = .string text → v' = .string text
  flag : ∀ flag, v = .bool flag → v' = .bool flag
  number : ∀ n, v = .number n → ∃ n', v' = .number n' ∧ n'.units = n.units
  object : v.isObject = true → v'.isObject = true
  array : ∀ elements, v = .array elements → ∃ elements', v' = .array elements' ∧
    ∀ e' ∈ elements', ∃ e ∈ elements, (∀ text, e = .string text → e' = .string text) ∧
      (e.isObject = true → e'.isObject = true)

namespace KeepsForm

theorem refl (v : Json) : v.KeepsForm v where
  text _ := id
  flag _ := id
  number n same := ⟨n, same, rfl⟩
  object := id
  array elements same := ⟨elements, same, fun e member => ⟨e, member, fun _ => id, id⟩⟩

theorem of_isObject {v v' : Json} (left : v.isObject = true) (right : v'.isObject = true) :
    v.KeepsForm v' := by
  obtain ⟨_, rfl⟩ := (isObject_iff v).1 left
  exact {
    text := nofun
    flag := nofun
    number := fun _ same => nomatch same
    object := fun _ => right
    array := nofun }

theorem of_array {elements elements' : List Json}
    (each : ∀ e' ∈ elements', ∃ e ∈ elements, e = e' ∨ e.isObject = true ∧ e'.isObject = true) :
    (Json.array elements).KeepsForm (.array elements') := by
  refine {
    text := nofun
    flag := nofun
    number := fun _ same => nomatch same
    object := nofun
    array := ?_ }
  intro _ same
  cases same
  refine ⟨elements', rfl, fun e' member => ?_⟩
  obtain ⟨e, listed, rfl | ⟨left, right⟩⟩ := each e' member
  · exact ⟨e, listed, fun _ => id, id⟩
  · refine ⟨e, listed, fun text same => ?_, fun _ => right⟩
    rw [same] at left
    cases left

variable {v v' : Json} (keeps : v.KeepsForm v')
include keeps

theorem isTypeNameText (named : v.IsTypeNameText) : v'.IsTypeNameText := by
  obtain ⟨text, same, proper⟩ := named
  exact ⟨text, keeps.text text same, proper⟩

theorem isTypes (types : v.IsTypes) : v'.IsTypes := by
  rcases types with named | ⟨elements, same, each⟩
  · exact .inl (keeps.isTypeNameText named)
  · obtain ⟨elements', same', partner⟩ := keeps.array elements same
    refine .inr ⟨elements', same', fun e' member => ?_⟩
    obtain ⟨e, listed, text, object⟩ := partner e' member
    refine (each e listed).imp (fun named => ?_) object
    obtain ⟨name, same, proper⟩ := named
    exact ⟨name, text name same, proper⟩

end KeepsForm

end Json

theorem Json.Holds.congr {raw raw' : Json} {keyword : String} {form : Json → Prop}
    (holds : raw.Holds keyword form) (same : raw.member? keyword = raw'.member? keyword) :
    raw'.Holds keyword form := by
  unfold Json.Holds at holds ⊢
  rw [← same]
  exact holds

section Transfer

variable {raw raw' : Json}
  (keeps : ∀ name v', raw'.member? name = some v' → ∃ v, raw.member? name = some v ∧ v.KeepsForm v')
include keeps

theorem holds_transfer {keyword : String} {form form' : Json → Prop}
    (holds : raw.Holds keyword form) (step : ∀ v v', v.KeepsForm v' → form v → form' v') :
    raw'.Holds keyword form' := by
  intro v' declared'
  obtain ⟨v, declared, kept⟩ := keeps keyword v' declared'
  exact step v v' kept (holds v declared)

variable [PatternEngine]

-- How a count is written matters to the grammar, so counts are left to the caller.
theorem InForm.transfer (form : InForm raw) (object : raw'.isObject = true)
    (kinds : ∀ k, raw.allowedKinds k ↔ raw'.allowedKinds k)
    (counts : ∀ keyword ∈ ["minLength", "maxLength", "minItems", "maxItems"],
      raw'.Holds keyword fun v => ∃ (count : Nat) (fits : _), v = .number (.integer count fits)) :
    InForm raw' where
  object
  kinds := form.kinds.imp fun k => (kinds k).1
  counts
  types keyword listed :=
    holds_transfer keeps (form.types keyword listed) fun _ _ kept types => kept.isTypes types
  enumeration := by
    refine holds_transfer keeps form.enumeration fun v v' kept array => ?_
    obtain ⟨values, same⟩ := array
    obtain ⟨values', same', _⟩ := kept.array values same
    exact ⟨values', same'⟩
  limits keyword listed := by
    refine holds_transfer keeps (form.limits keyword listed) fun v v' kept number => ?_
    obtain ⟨n, same⟩ := number
    obtain ⟨n', same', _⟩ := kept.number n same
    exact ⟨n', same'⟩
  divisor := by
    refine holds_transfer keeps form.divisor fun v v' kept number => ?_
    obtain ⟨n, same, positive⟩ := number
    obtain ⟨n', same', units⟩ := kept.number n same
    exact ⟨n', same', by rwa [units]⟩
  flags keyword listed := by
    refine holds_transfer keeps (form.flags keyword listed) fun v v' kept flag => ?_
    obtain ⟨b, same⟩ := flag
    exact ⟨b, kept.flag b same⟩
  pattern := by
    refine holds_transfer keeps form.pattern fun v v' kept text => ?_
    obtain ⟨source, same, compiled⟩ := text
    exact ⟨source, kept.text source same, compiled⟩
  items := by
    refine holds_transfer keeps form.items fun v v' kept items => items.imp kept.object ?_
    intro array
    obtain ⟨elements, same⟩ := array
    obtain ⟨elements', same', _⟩ := kept.array elements same
    exact ⟨elements', same'⟩
  additional keyword listed := by
    refine holds_transfer keeps (form.additional keyword listed) fun v v' kept additional =>
      additional.imp ?_ kept.object
    intro flag
    obtain ⟨b, same⟩ := flag
    exact ⟨b, kept.flag b same⟩
  properties := holds_transfer keeps form.properties fun _ _ kept object => kept.object object

end Transfer

end JsonSchema
