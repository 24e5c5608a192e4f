import JsonSchema.Proofs.Compile.Context
import JsonSchema.Proofs.Compile.Form
import JsonSchema.Proofs.Compile.Parallel

set_option autoImplicit false

namespace JsonSchema

theorem getElem?_hole {earlier later : List Json} {a sub : Json} {i : Nat}
    (found : (earlier ++ a :: later)[i]? = some sub) (b : Json) :
    (earlier ++ b :: later)[i]? = some sub ∨ i = earlier.length ∧ sub = a := by
  rw [List.getElem?_append] at found ⊢
  split at found
  next early =>
    rw [if_pos early]
    exact .inl found
  next late =>
    rw [if_neg late]
    cases place : i - earlier.length with
    | zero =>
      rw [place] at found
      cases found
      exact .inr ⟨by omega, rfl⟩
    | succ j =>
      rw [place] at found
      exact .inl found

theorem Frame.names_value (frame : Frame) {a b : Json} (whole : a.isObject = true)
    (object : b.isObject = true) (k : Kind) : (frame.value a).names k ↔ (frame.value b).names k := by
  obtain ⟨_, rfl⟩ := (Json.isObject_iff a).1 whole
  obtain ⟨_, rfl⟩ := (Json.isObject_iff b).1 object
  cases frame <;> simp [Frame.value, Json.names]

theorem Frame.keepsForm_value (frame : Frame) {a b : Json} (whole : a.isObject = true)
    (object : b.isObject = true) : (frame.value a).KeepsForm (frame.value b) := by
  have row (earlier later : List Json) :
      (Json.array (earlier ++ a :: later)).KeepsForm (.array (earlier ++ b :: later)) := by
    refine .of_array fun e member => ?_
    rcases List.mem_append.1 member with before | here
    · exact ⟨e, List.mem_append_left _ before, .inl rfl⟩
    · rcases List.mem_cons.1 here with rfl | after
      · exact ⟨a, List.mem_append_right _ List.mem_cons_self, .inr ⟨whole, object⟩⟩
      · exact ⟨e, List.mem_append_right _ (List.mem_cons_of_mem _ after), .inl rfl⟩
  cases frame with
  | alternative earlier later | disallowed earlier later | item earlier later =>
    exact row earlier later
  | items | additionalItems | additionalProperties => exact .of_isObject whole object
  | property => exact .of_isObject rfl rfl

namespace Layer

variable (layer : Layer)

theorem member?_keyword (v : Json) :
    (layer.fill v).member? layer.frame.keyword = some (layer.frame.value v) :=
  layer.lookup_keyword v

theorem member?_other {name : String} (other : name ≠ layer.frame.keyword) (a b : Json) :
    (layer.fill a).member? name = (layer.fill b).member? name :=
  layer.lookup_other other a b

variable {a b : Json}

theorem subschema_fill_cases (whole : a.isObject = true) {position : Position} {sub : Json}
    (inside : Subschema (layer.fill a) position sub) (b : Json) :
    Subschema (layer.fill b) position sub ∨ position = layer.frame.position ∧ sub = a := by
  by_cases same : position.keyword = layer.frame.keyword
  · have here := layer.member?_keyword a
    have there := layer.member?_keyword b
    generalize layer.fill a = document at inside here
    generalize layer.fill b = other at there ⊢
    generalize layer.frame = frame at same here there ⊢
    cases inside with
    | alternative declared found object =>
      cases frame with
      | alternative earlier later =>
        cases declared.symm.trans here
        rcases getElem?_hole found b with found | ⟨rfl, rfl⟩
        · exact .inl (.alternative there found object)
        · exact .inr ⟨rfl, rfl⟩
      | _ => simp [Position.keyword, Frame.keyword] at same
    | disallowed declared found object =>
      cases frame with
      | disallowed earlier later =>
        cases declared.symm.trans here
        rcases getElem?_hole found b with found | ⟨rfl, rfl⟩
        · exact .inl (.disallowed there found object)
        · exact .inr ⟨rfl, rfl⟩
      | _ => simp [Position.keyword, Frame.keyword] at same
    | items declared object =>
      cases frame with
      | items =>
        cases declared.symm.trans here
        exact .inr ⟨rfl, rfl⟩
      | item earlier later =>
        cases declared.symm.trans here
        cases object
      | _ => simp [Position.keyword, Frame.keyword] at same
    | item declared found =>
      cases frame with
      | items =>
        cases declared.symm.trans here
        cases whole
      | item earlier later =>
        cases declared.symm.trans here
        rcases getElem?_hole found b with found | ⟨rfl, rfl⟩
        · exact .inl (.item there found)
        · exact .inr ⟨rfl, rfl⟩
      | _ => simp [Position.keyword, Frame.keyword] at same
    | additionalItems declared object =>
      cases frame with
      | additionalItems =>
        cases declared.symm.trans here
        exact .inr ⟨rfl, rfl⟩
      | _ => simp [Position.keyword, Frame.keyword] at same
    | property declared member =>
      cases frame with
      | property earlier name later =>
        cases declared.symm.trans here
        rcases List.mem_append.1 member with before | here
        · exact .inl (.property there (List.mem_append_left _ before))
        · rcases List.mem_cons.1 here with same | after
          · cases same
            exact .inr ⟨rfl, rfl⟩
          · exact .inl (.property there (List.mem_append_right _ (List.mem_cons_of_mem _ after)))
      | _ => simp [Position.keyword, Frame.keyword] at same
    | additionalProperties declared object =>
      cases frame with
      | additionalProperties =>
        cases declared.symm.trans here
        exact .inr ⟨rfl, rfl⟩
      | _ => simp [Position.keyword, Frame.keyword] at same
  · exact .inl (inside.of_member?_eq (layer.member?_other same b a))

section Kinds

variable (whole : a.isObject = true) (object : b.isObject = true)
include whole object

theorem names_fill {keyword : String} {k : Kind}
    (declared : ∃ value, (layer.fill a).member? keyword = some value ∧ value.names k) :
    ∃ value, (layer.fill b).member? keyword = some value ∧ value.names k := by
  obtain ⟨value, declared, names⟩ := declared
  by_cases here : keyword = layer.frame.keyword
  · subst here
    cases declared.symm.trans (layer.member?_keyword a)
    exact ⟨_, layer.member?_keyword b, (layer.frame.names_value whole object k).1 names⟩
  · rw [layer.member?_other here a b] at declared
    exact ⟨value, declared, names⟩

theorem typesWithin_fill (grows : ∀ k, a.allowedKinds k → b.allowedKinds k) :
    (layer.fill a).TypesWithin (layer.fill b) where
  unset absent := by
    by_cases here : "type" = layer.frame.keyword
    · rw [here, layer.member?_keyword] at absent
      cases absent
    · rw [layer.member?_other here a b] at absent
      exact absent
  names _ _ := layer.names_fill whole object
  nested position sub inside := by
    rcases layer.subschema_fill_cases whole inside b with there | ⟨rfl, rfl⟩
    · exact ⟨position, sub, .refl position, there, fun _ => id⟩
    · exact ⟨_, b, .refl _, layer.subschema_fill object, grows⟩

-- With a hole that takes kinds away, more in the hole would be less in the document.
variable (grows : ∀ k, a.allowedKinds k → b.allowedKinds k) (other : layer.frame.keyword ≠ "disallow")
include grows other

theorem allowedKinds_fill_mono {k : Kind} (allowed : (layer.fill a).allowedKinds k) :
    (layer.fill b).allowedKinds k := by
  rw [Json.allowedKinds] at allowed ⊢
  exact Kinds.without_mono (fun _ => (layer.typesWithin_fill whole object grows).declaredKinds)
    (Json.disallowedKinds_congr (layer.member?_other other.symm a b)) allowed

theorem grantedKinds_fill_mono {k : Kind} (granted : (layer.fill a).grantedKinds k) :
    (layer.fill b).grantedKinds k :=
  Kinds.without_mono (fun _ => (layer.typesWithin_fill whole object grows).namedKinds)
    (Json.disallowedKinds_congr (layer.member?_other other.symm a b)) granted

end Kinds

section Form

variable (whole : a.isObject = true) (object : b.isObject = true)
include whole object

theorem keepsForm_fill (name : String) (v' : Json)
    (declared' : (layer.fill b).member? name = some v') :
    ∃ v, (layer.fill a).member? name = some v ∧ v.KeepsForm v' := by
  by_cases here : name = layer.frame.keyword
  · subst here
    cases declared'.symm.trans (layer.member?_keyword b)
    exact ⟨_, layer.member?_keyword a, layer.frame.keepsForm_value whole object⟩
  · rw [layer.member?_other here b a] at declared'
    exact ⟨v', declared', .refl v'⟩

end Form

end Layer

variable [PatternEngine]

theorem Layer.wellFormed_fill (layer : Layer) {a b : Json} (whole : a.isObject = true)
    (object : b.isObject = true) (same : ∀ k, a.allowedKinds k ↔ b.allowedKinds k)
    (wellFormed : WellFormed (layer.fill a)) (inner : WellFormed b) : WellFormed (layer.fill b) := by
  obtain ⟨form, nested⟩ := wellFormed
  have kinds := Json.allowedKinds_iff_of_within
    (layer.typesWithin_fill whole object fun k => (same k).1)
    (layer.typesWithin_fill object whole fun k => (same k).2)
  refine .intro (form.transfer (layer.keepsForm_fill whole object) rfl kinds fun keyword count => ?_)
    fun position sub inside => ?_
  · have plain : ∀ keyword ∈ ["minLength", "maxLength", "minItems", "maxItems"],
        keyword ∉ Frame.keywords := by decide
    exact (form.counts keyword count).congr (layer.lookup_plain (plain keyword count) a b)
  · rcases layer.subschema_fill_cases object inside a with there | ⟨rfl, rfl⟩
    · exact nested position sub there
    · exact inner

namespace Schema

section Read

theorem AreItems.uniform_of_object {sub : Json} {items : Items Schema}
    (read : AreItems (some sub) items) (object : sub.isObject = true) :
    ∃ x, items = .uniform x ∧ Compiles sub x := by
  cases read with
  | any absent => cases absent
  | uniform declared _ compiled =>
    cases declared
    exact ⟨_, rfl, compiled⟩
  | tuple declared =>
    cases declared
    cases object

theorem AreItems.tuple_of_array {elements : List Json} {items : Items Schema}
    (read : AreItems (some (.array elements)) items) :
    ∃ schemas, items = .tuple schemas ∧ List.Forall₂ Compiles elements schemas := by
  cases read with
  | any absent => cases absent
  | uniform declared object =>
    cases declared
    cases object
  | tuple declared compiled =>
    cases declared
    exact ⟨_, rfl, compiled⟩

theorem IsAdditional.schema_of_object {sub : Json} {additional : Additional Schema}
    (read : IsAdditional (some sub) additional) (object : sub.isObject = true) :
    ∃ x, additional = .schema x ∧ Compiles sub x := by
  cases read with
  | allowed declared =>
    rcases declared with absent | declared
    · cases absent
    · cases declared
      cases object
  | forbidden declared =>
    cases declared
    cases object
  | schema declared _ compiled =>
    cases declared
    exact ⟨_, rfl, compiled⟩

theorem AreProperties.aligned_of_object {members : List (String × Json)}
    {properties : List (String × Schema)} (read : AreProperties (some (.object members)) properties) :
    AlignedBy Compiles members properties := by
  cases read with
  | absent absent => cases absent
  | object declared compiled =>
    cases declared
    exact compiled

end Read

section Filled

variable {R : Schema → Schema → Prop} {layer : Layer} {a b : Json}

section Values

variable (reflexive : ∀ x, R x x) (paired : Paired R a b) (whole : a.isObject = true)
  (object : b.isObject = true)
include reflexive paired whole object

theorem rel_items {i j : Items Schema} (left : AreItems ((layer.fill a).member? "items") i)
    (right : AreItems ((layer.fill b).member? "items") j) : i.Rel R j := by
  by_cases here : "items" = layer.frame.keyword
  · rw [here, layer.member?_keyword] at left right
    generalize layer.frame = frame at here left right
    cases frame with
    | items =>
      obtain ⟨x, rfl, compiled⟩ := left.uniform_of_object whole
      obtain ⟨y, rfl, compiled'⟩ := right.uniform_of_object object
      exact .uniform (paired x y compiled compiled')
    | item earlier later =>
      obtain ⟨ss, rfl, compiled⟩ := left.tuple_of_array
      obtain ⟨ts, rfl, compiled'⟩ := right.tuple_of_array
      refine .tuple (forall₂_of_paired ?_ compiled compiled')
      have same (row : List Json) : List.Forall₂ (Paired R) row row :=
        List.forall₂_same.2 fun u _ => .refl reflexive u
      exact List.rel_append (same earlier) (.cons paired (same later))
    | _ => simp [Frame.keyword] at here
  · rw [layer.member?_other here a b] at left
    rw [left.unique right]
    exact .refl reflexive j

theorem rel_additional {keyword : String} {i j : Additional Schema}
    (listed : keyword ∈ ["additionalItems", "additionalProperties"])
    (left : IsAdditional ((layer.fill a).member? keyword) i)
    (right : IsAdditional ((layer.fill b).member? keyword) j) : i.Rel R j := by
  by_cases here : keyword = layer.frame.keyword
  · rw [here, layer.member?_keyword] at left right
    rw [here] at listed
    generalize layer.frame = frame at listed left right
    cases frame with
    | additionalItems | additionalProperties =>
      obtain ⟨x, rfl, compiled⟩ := left.schema_of_object whole
      obtain ⟨y, rfl, compiled'⟩ := right.schema_of_object object
      exact .schema (paired x y compiled compiled')
    | _ => simp [Frame.keyword] at listed
  · rw [layer.member?_other here a b] at left
    rw [left.unique right]
    exact .refl reflexive j

omit whole object in
theorem rel_properties {i j : List (String × Schema)}
    (left : AreProperties ((layer.fill a).member? "properties") i)
    (right : AreProperties ((layer.fill b).member? "properties") j) : AlignedBy R i j := by
  by_cases here : "properties" = layer.frame.keyword
  · rw [here, layer.member?_keyword] at left right
    generalize layer.frame = frame at here left right
    cases frame with
    | property earlier name later =>
      refine alignedBy_of_paired ?_ left.aligned_of_object right.aligned_of_object
      have same (row : List (String × Json)) : AlignedBy (Paired R) row row :=
        List.forall₂_same.2 fun u _ => ⟨rfl, .refl reflexive u.2⟩
      exact List.rel_append (same earlier) (.cons ⟨rfl, paired⟩ (same later))
    | _ => simp [Frame.keyword] at here
  · rw [layer.member?_other here a b] at left
    rw [left.unique right]
    exact List.forall₂_same.2 fun m _ => ⟨rfl, reflexive m.2⟩

theorem exists_alternative_fill {s t : Schema} (left : Compiles (layer.fill a) s)
    (right : Compiles (layer.fill b) t) {i : Nat} {x : Schema} (member : (i, x) ∈ s.alternatives) :
    ∃ j y, (j, y) ∈ t.alternatives ∧ R x y := by
  obtain ⟨sub, inside, compiled⟩ := (left.mem_alternatives_iff i x).1 member
  rcases layer.subschema_fill_cases whole inside b with there | ⟨place, rfl⟩
  · exact ⟨i, x, (right.mem_alternatives_iff i x).2 ⟨sub, there, compiled⟩, reflexive x⟩
  · have there := layer.subschema_fill object
    rw [← place] at there
    obtain ⟨y, compiled'⟩ := right.subschema there
    exact ⟨i, y, (right.mem_alternatives_iff i y).2 ⟨b, there, compiled'⟩,
      paired x y compiled compiled'⟩

end Values

theorem parallel_fill {s t x y : Schema} (reflexive : ∀ x, R x x) (inner : Compiles a x)
    (inner' : Compiles b y) (related : R x y) (left : Compiles (layer.fill a) s)
    (right : Compiles (layer.fill b) t) : Parallel R s t := by
  have paired : Paired R a b := paired_of_compiles inner inner' related
  have paired' : Paired (fun y x => R x y) b a := paired_of_compiles inner' inner related
  have whole := inner.isObject
  have object := inner'.isObject
  obtain ⟨_, _, parts⟩ := compiles_iff.1 left
  obtain ⟨_, _, parts'⟩ := compiles_iff.1 right
  have same {name : String} (plain : name ∉ Frame.keywords) :
      (layer.fill a).member? name = (layer.fill b).member? name := layer.lookup_plain plain a b
  exact {
    enumeration := by
      have read := parts.enumeration
      rw [same (by decide)] at read
      rw [unique_enumeration read parts'.enumeration]
      cases t.enumeration with
      | none => exact .none
      | some values => exact .some (.refl values)
    forth := fun i x => exists_alternative_fill reflexive paired whole object left right
    back := fun j y =>
      @exists_alternative_fill _ (fun y x => R x y) layer b a reflexive paired' object whole t s right
        left j y
    rules := by
      have plain : ∀ name ∈ ruleNames, name ∉ Frame.keywords := by decide
      exact left.rules_eq right fun name listed => same (plain name listed)
    items := rel_items reflexive paired whole object parts.items parts'.items
    additionalItems := rel_additional reflexive paired whole object (by simp) parts.additionalItems
      parts'.additionalItems
    required := by
      have read := parts.required
      rw [same (by decide)] at read
      exact unique_flag read parts'.required
    properties := rel_properties reflexive paired parts.properties parts'.properties
    additionalProperties := rel_additional reflexive paired whole object (by simp)
      parts.additionalProperties parts'.additionalProperties }

end Filled

end Schema

end JsonSchema
