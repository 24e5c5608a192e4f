import JsonSchema.Compile
import JsonSchema.Proofs.Keyword.Reading
import JsonSchema.Proofs.Rows

set_option autoImplicit false

namespace JsonSchema

variable [PatternEngine]

namespace Schema

open Keyword

abbrev Compiles (raw : Json) (s : Schema) : Prop := compile raw = .ok s

theorem Compiles.isObject {raw : Json} {s : Schema} (compiled : Compiles raw s) :
    raw.isObject = true := by
  cases raw with
  | object members => rfl
  | _ => cases compiled

theorem compileAll_eq_ok_iff {elements : List Json} {schemas : List Schema} :
    compileAll elements = .ok schemas ↔ List.Forall₂ Compiles elements schemas := by
  induction elements generalizing schemas with
  | nil => simp [compileAll, eq_comm]
  | cons v rest ih =>
    rw [compileAll]
    simp only [bind_eq_ok_iff, pure_eq_ok_iff, ih]
    constructor
    · intro accepted
      obtain ⟨s, head, tail, compiled, rfl⟩ := accepted
      exact .cons head compiled
    · intro related
      cases related with
      | cons head tail => exact ⟨_, head, _, tail, rfl⟩

theorem compileMembers_eq_ok_iff {members : Members} {properties : List (String × Schema)} :
    compileMembers members = .ok properties ↔ AlignedBy Compiles members properties := by
  unfold AlignedBy
  induction members generalizing properties with
  | nil => simp [compileMembers, eq_comm]
  | cons head rest ih =>
    rw [compileMembers]
    simp only [bind_eq_ok_iff, pure_eq_ok_iff, ih]
    constructor
    · intro accepted
      obtain ⟨s, compiled, tail, related, rfl⟩ := accepted
      exact .cons ⟨rfl, compiled⟩ related
    · intro related
      cases related with
      | @cons _ b _ _ found tail =>
        obtain ⟨same, compiled⟩ := found
        exact ⟨b.2, compiled, _, tail, by rw [same]⟩

inductive AreItems (value : Option Json) : Items Schema → Prop where
  | any (absent : value = none) : AreItems value .any
  | uniform {sub : Json} {s : Schema} (declared : value = some sub) (object : sub.isObject = true)
      (compiled : Compiles sub s) : AreItems value (.uniform s)
  | tuple {elements : List Json} {schemas : List Schema} (declared : value = some (.array elements))
      (compiled : List.Forall₂ Compiles elements schemas) : AreItems value (.tuple schemas)

theorem itemsIn_eq_ok_iff {keyword : String} {members : Members} {items : Items Schema} :
    itemsIn keyword members = .ok items ↔ AreItems (members.lookup keyword) items := by
  rw [itemsIn_eq]
  constructor
  · intro read
    cases found : members.lookup keyword with
    | none =>
      rw [found] at read
      cases read
      exact .any rfl
    | some v =>
      rw [found] at read
      cases v with
      | array elements =>
        obtain ⟨schemas, compiled, rfl⟩ := map_eq_ok_iff.1 read
        exact .tuple rfl (compileAll_eq_ok_iff.1 compiled)
      | object inner =>
        obtain ⟨s, compiled, rfl⟩ := map_eq_ok_iff.1 read
        exact .uniform rfl rfl compiled
      | _ => cases read
  · intro items
    cases items with
    | any absent => rw [absent]
    | uniform declared object compiled =>
      obtain ⟨inner, rfl⟩ := (Json.isObject_iff _).1 object
      rw [declared]
      exact map_eq_ok_iff.2 ⟨_, compiled, rfl⟩
    | tuple declared compiled =>
      rw [declared]
      exact map_eq_ok_iff.2 ⟨_, compileAll_eq_ok_iff.2 compiled, rfl⟩

theorem exists_areItems_iff {value : Option Json} :
    (∃ items, AreItems value items) ↔ ∀ v, value = some v →
      (∃ s, Compiles v s) ∨ ∃ elements, v = .array elements ∧ ∀ e ∈ elements, ∃ s, Compiles e s := by
  constructor
  · intro accepted v same
    obtain ⟨items, read⟩ := accepted
    subst same
    cases read with
    | any absent => cases absent
    | uniform declared _ compiled =>
      cases declared
      exact .inl ⟨_, compiled⟩
    | tuple declared compiled =>
      cases declared
      exact .inr ⟨_, rfl, exists_forall₂_iff.1 ⟨_, compiled⟩⟩
  · intro formed
    cases value with
    | none => exact ⟨_, .any rfl⟩
    | some v =>
      rcases formed v rfl with ⟨s, compiled⟩ | ⟨elements, rfl, each⟩
      · exact ⟨_, .uniform rfl compiled.isObject compiled⟩
      · obtain ⟨schemas, compiled⟩ := exists_forall₂_iff.2 each
        exact ⟨_, .tuple rfl compiled⟩

inductive IsAdditional (value : Option Json) : Additional Schema → Prop where
  | allowed (declared : value = none ∨ value = some (.bool true)) : IsAdditional value .allowed
  | forbidden (declared : value = some (.bool false)) : IsAdditional value .forbidden
  | schema {sub : Json} {s : Schema} (declared : value = some sub) (object : sub.isObject = true)
      (compiled : Compiles sub s) : IsAdditional value (.schema s)

theorem additionalIn_eq_ok_iff {keyword : String} {members : Members}
    {additional : Additional Schema} :
    additionalIn keyword members = .ok additional ↔
      IsAdditional (members.lookup keyword) additional := by
  rw [additionalIn_eq]
  constructor
  · intro read
    cases found : members.lookup keyword with
    | none =>
      rw [found] at read
      cases read
      exact .allowed (.inl rfl)
    | some v =>
      rw [found] at read
      dsimp only at read
      unfold additionalOf at read
      split at read
      · cases read
        exact .allowed (.inr rfl)
      · cases read
        exact .forbidden rfl
      · obtain ⟨s, compiled, rfl⟩ := map_eq_ok_iff.1 read
        exact .schema rfl rfl compiled
      · cases read
  · intro additional
    cases additional with
    | allowed declared =>
      rcases declared with absent | declared
      · rw [absent]
      · rw [declared]
        rfl
    | forbidden declared =>
      rw [declared]
      rfl
    | schema declared object compiled =>
      obtain ⟨inner, rfl⟩ := (Json.isObject_iff _).1 object
      rw [declared]
      exact map_eq_ok_iff.2 ⟨_, compiled, rfl⟩

theorem exists_isAdditional_iff {value : Option Json} :
    (∃ additional, IsAdditional value additional) ↔ ∀ v, value = some v →
      (∃ flag, v = .bool flag) ∨ ∃ s, Compiles v s := by
  constructor
  · intro accepted v same
    obtain ⟨additional, read⟩ := accepted
    subst same
    cases read with
    | allowed declared =>
      rcases declared with absent | declared
      · cases absent
      · cases declared
        exact .inl ⟨true, rfl⟩
    | forbidden declared =>
      cases declared
      exact .inl ⟨false, rfl⟩
    | schema declared _ compiled =>
      cases declared
      exact .inr ⟨_, compiled⟩
  · intro formed
    cases value with
    | none => exact ⟨_, .allowed (.inl rfl)⟩
    | some v =>
      rcases formed v rfl with ⟨flag, rfl⟩ | ⟨s, compiled⟩
      · cases flag with
        | true => exact ⟨_, .allowed (.inr rfl)⟩
        | false => exact ⟨_, .forbidden rfl⟩
      · exact ⟨_, .schema rfl compiled.isObject compiled⟩

inductive AreProperties (value : Option Json) : List (String × Schema) → Prop where
  | absent (absent : value = none) : AreProperties value []
  | object {members : Members} {properties : List (String × Schema)}
      (declared : value = some (.object members)) (compiled : AlignedBy Compiles members properties) :
      AreProperties value properties

theorem propertiesIn_eq_ok_iff {keyword : String} {members : Members}
    {properties : List (String × Schema)} :
    propertiesIn keyword members = .ok properties ↔
      AreProperties (members.lookup keyword) properties := by
  rw [propertiesIn_eq]
  constructor
  · intro read
    cases found : members.lookup keyword with
    | none =>
      rw [found] at read
      cases read
      exact .absent rfl
    | some v =>
      rw [found] at read
      cases v with
      | object inner => exact .object rfl (compileMembers_eq_ok_iff.1 read)
      | _ => cases read
  · intro properties
    cases properties with
    | absent absent => rw [absent]
    | object declared compiled =>
      rw [declared]
      exact compileMembers_eq_ok_iff.2 compiled

theorem exists_areProperties_iff {value : Option Json} :
    (∃ properties, AreProperties value properties) ↔ ∀ v, value = some v →
      ∃ members, v = .object members ∧
        ∀ name sub, (name, sub) ∈ members → ∃ s, Compiles sub s := by
  constructor
  · intro accepted v same
    obtain ⟨properties, read⟩ := accepted
    subst same
    cases read with
    | absent absent => cases absent
    | object declared compiled =>
      cases declared
      exact ⟨_, rfl, exists_alignedBy_iff.1 ⟨_, compiled⟩⟩
  · intro formed
    cases value with
    | none => exact ⟨_, .absent rfl⟩
    | some v =>
      obtain ⟨members, rfl, each⟩ := formed v rfl
      obtain ⟨properties, compiled⟩ := exists_alignedBy_iff.2 each
      exact ⟨_, .object rfl compiled⟩

end Schema

end JsonSchema
