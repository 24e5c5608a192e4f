import JsonSchema.Proofs.Compile.Context
import JsonSchema.Proofs.Compile.Parallel

set_option autoImplicit false

namespace JsonSchema

namespace Keyword

def vocabulary : List String := [
  "type", "disallow", "enum", "minimum", "maximum", "exclusiveMinimum", "exclusiveMaximum",
  "divisibleBy", "minLength", "maxLength", "pattern", "minItems", "maxItems", "uniqueItems", "items",
  "additionalItems", "required", "properties", "additionalProperties"]

end Keyword

open Keyword (vocabulary)

namespace Json

mutual

def pruned : Json → Json
  | .object members => .object (prunedMembers members)
  | v => v
termination_by structural v => v

def prunedMembers : List (String × Json) → List (String × Json)
  | [] => []
  | (key, v) :: rest =>
    if key ∈ vocabulary then (key, prunedAt key v) :: prunedMembers rest else prunedMembers rest
termination_by structural members => members

def prunedAt (keyword : String) : Json → Json
  | .array elements =>
    if keyword ∈ ["type", "disallow", "items"] then .array (prunedElements elements)
    else .array elements
  | .object members =>
    if keyword ∈ ["items", "additionalItems", "additionalProperties"] then
      .object (prunedMembers members)
    else if keyword = "properties" then .object (prunedProperties members)
    else .object members
  | v => v
termination_by structural v => v

def prunedElements : List Json → List Json
  | [] => []
  | v :: rest => v.pruned :: prunedElements rest
termination_by structural elements => elements

def prunedProperties : List (String × Json) → List (String × Json)
  | [] => []
  | (name, v) :: rest => (name, v.pruned) :: prunedProperties rest
termination_by structural members => members

end

theorem prunedElements_eq (elements : List Json) :
    prunedElements elements = elements.map pruned := by
  induction elements with
  | nil => rfl
  | cons v rest ih => rw [prunedElements, ih, List.map_cons]

theorem prunedProperties_eq (members : List (String × Json)) :
    prunedProperties members = members.map fun m => (m.1, m.2.pruned) := by
  induction members with
  | nil => rfl
  | cons head rest ih => rw [prunedProperties, ih, List.map_cons]

theorem pruned_of_not_isObject {v : Json} (other : v.isObject = false) : v.pruned = v := by
  cases v with
  | object members => cases other
  | _ => rfl

theorem prunedAt_of_plain {keyword : String} (plain : keyword ∉ Frame.keywords) (v : Json) :
    v.prunedAt keyword = v := by
  simp only [Frame.keywords, List.mem_cons, List.not_mem_nil, or_false, not_or] at plain
  obtain ⟨type, disallow, items, additionalItems, properties, additionalProperties⟩ := plain
  cases v <;> simp [prunedAt, type, disallow, items, additionalItems, additionalProperties, properties]

theorem prunedMembers_append (before after : List (String × Json)) :
    prunedMembers (before ++ after) = prunedMembers before ++ prunedMembers after := by
  induction before with
  | nil => rfl
  | cons head rest ih =>
    rw [List.cons_append, prunedMembers, prunedMembers, ih]
    split
    · rfl
    · rfl

theorem pruned_insert {name : String} (unknown : name ∉ vocabulary) (before : List (String × Json))
    (v : Json) (after : List (String × Json)) :
    (Json.object (before ++ (name, v) :: after)).pruned = (Json.object (before ++ after)).pruned := by
  rw [pruned, pruned, prunedMembers_append, prunedMembers_append, prunedMembers, if_neg unknown]

theorem lookup_prunedMembers (members : List (String × Json)) {name : String}
    (known : name ∈ vocabulary) :
    (prunedMembers members).lookup name = (members.lookup name).map (prunedAt name) := by
  induction members with
  | nil => rfl
  | cons head rest ih =>
    obtain ⟨key, v⟩ := head
    rw [prunedMembers]
    by_cases same : name = key
    · subst same
      rw [if_pos known, List.lookup_cons_self, List.lookup_cons_self, Option.map_some]
    · have skip : (name == key) = false := by simpa using same
      have behind : ((key, v) :: rest).lookup name = rest.lookup name := by
        rw [List.lookup_cons, skip]
      rw [behind, ← ih]
      split
      · rw [List.lookup_cons, skip]
      · rfl

theorem lookup_prunedMembers_plain (members : List (String × Json)) {name : String}
    (known : name ∈ vocabulary) (plain : name ∉ Frame.keywords) :
    (prunedMembers members).lookup name = members.lookup name := by
  rw [lookup_prunedMembers members known]
  cases members.lookup name with
  | none => rfl
  | some v => exact congrArg some (prunedAt_of_plain plain v)

end Json

section Context

variable {a b : Json} (left : a.isObject = true) (right : b.isObject = true)
  (same : a.pruned = b.pruned)
include left right same

theorem Layer.pruned_fill (layer : Layer) : (layer.fill a).pruned = (layer.fill b).pruned := by
  have value : (layer.frame.value a).prunedAt layer.frame.keyword =
      (layer.frame.value b).prunedAt layer.frame.keyword := by
    obtain ⟨members, rfl⟩ := (Json.isObject_iff a).1 left
    obtain ⟨members', rfl⟩ := (Json.isObject_iff b).1 right
    cases layer.frame with
    | alternative | disallowed | item =>
      simp [Frame.keyword, Frame.value, Json.prunedAt, Json.prunedElements_eq, same]
    | property => simp [Frame.keyword, Frame.value, Json.prunedAt, Json.prunedProperties_eq, same]
    | items | additionalItems | additionalProperties =>
      simpa [Frame.keyword, Frame.value, Json.prunedAt, Json.pruned] using same
  rw [Layer.fill, Layer.fill, Json.pruned, Json.pruned, Layer.members, Layer.members,
    Json.prunedMembers_append, Json.prunedMembers_append, Json.prunedMembers, Json.prunedMembers,
    value]

theorem Context.pruned_fill (context : Context) :
    (context.fill a).pruned = (context.fill b).pruned := by
  induction context with
  | nil => exact same
  | cons layer rest ih =>
    exact layer.pruned_fill (isObject_fill rest left) (isObject_fill rest right) ih

end Context

inductive FailsAlike {ε α β : Type} (R : α → β → Prop) : Except ε α → Except ε β → Prop where
  | ok {a : α} {b : β} (related : R a b) : FailsAlike R (.ok a) (.ok b)
  | error (e : ε) : FailsAlike R (.error e) (.error e)

namespace FailsAlike

variable {ε α β γ δ : Type} {R : α → β → Prop} {S : γ → δ → Prop}

theorem refl {R : α → α → Prop} (reflexive : ∀ a, R a a) (x : Except ε α) : FailsAlike R x x := by
  cases x with
  | ok a => exact .ok (reflexive a)
  | error e => exact .error e

theorem bind {x : Except ε α} {y : Except ε β} {f : α → Except ε γ} {g : β → Except ε δ}
    (first : FailsAlike R x y) (next : ∀ a b, R a b → FailsAlike S (f a) (g b)) :
    FailsAlike S (x >>= f) (y >>= g) := by
  cases first with
  | ok related => exact next _ _ related
  | error e => exact .error e

theorem bind_self {x : Except ε α} {f : α → Except ε γ} {g : α → Except ε δ}
    (next : ∀ a, FailsAlike S (f a) (g a)) : FailsAlike S (x >>= f) (x >>= g) := by
  refine (refl (R := Eq) (fun _ => rfl) x).bind fun a b same => ?_
  subst same
  exact next a

theorem imp {T : α → β → Prop} {x : Except ε α} {y : Except ε β} (first : FailsAlike R x y)
    (weaker : ∀ a b, R a b → T a b) : FailsAlike T x y := by
  cases first with
  | ok related => exact .ok (weaker _ _ related)
  | error e => exact .error e

theorem map {x : Except ε α} {y : Except ε β} {f : α → γ} {g : β → δ} (first : FailsAlike R x y)
    (next : ∀ a b, R a b → S (f a) (g b)) : FailsAlike S (x.map f) (y.map g) := by
  cases first with
  | ok related => exact .ok (next _ _ related)
  | error e => exact .error e

theorem mapM {f : γ → Except ε α} {g : δ → Except ε β} {us : List γ} {vs : List δ}
    (each : List.Forall₂ (fun u v => FailsAlike R (f u) (g v)) us vs) :
    FailsAlike (List.Forall₂ R) (us.mapM f) (vs.mapM g) := by
  induction each with
  | nil => exact .ok .nil
  | cons head _ ih =>
    rw [List.mapM_cons, List.mapM_cons]
    refine head.bind fun a b related => ih.bind fun as bs others => ?_
    exact .ok (.cons related others)

end FailsAlike

namespace Schema

open Keyword Json

theorem forall₂_map_of_forall {α : Type} {S : α → α → Prop} {f : α → α} {l : List α}
    (each : ∀ a ∈ l, S a (f a)) : List.Forall₂ S l (l.map f) := by
  rw [List.forall₂_map_right_iff, List.forall₂_same]
  exact each

theorem alike_parse_pruned (v : Json) :
    FailsAlike (fun _ _ => True) (TypeElement.parse v) (TypeElement.parse v.pruned) := by
  cases v with
  | object members => exact .ok trivial
  | _ => exact .refl (fun _ => trivial) _

-- A keyword is looked up first: if it is absent, it is so on both sides.
theorem alike_lookup {α : Type} {S : α → α → Prop} {members : Members} {keyword : String}
    (known : keyword ∈ vocabulary) {absent : α} (reflexive : S absent absent)
    {read : Json → Except SchemaError α}
    (each : ∀ v, members.lookup keyword = some v →
      FailsAlike S (read v) (read (v.prunedAt keyword))) :
    FailsAlike S
      (match members.lookup keyword with
        | none => .ok absent
        | some v => read v)
      (match (prunedMembers members).lookup keyword with
        | none => .ok absent
        | some v => read v) := by
  rw [lookup_prunedMembers members known]
  cases found : members.lookup keyword with
  | none => exact .ok reflexive
  | some v => exact each v found

variable [PatternEngine]

section Readers

variable {R : Schema → Schema → Prop}

def Reads (R : Schema → Schema → Prop) (v : Json) : Prop :=
  FailsAlike R (compile v) (compile v.pruned)

structure SameTypes (R : Schema → Schema → Prop) (a b : ResolvedTypes) : Prop where
  types : a.types = b.types
  named : a.named = b.named
  anonymous : List.Forall₂ (fun x y => x.1 = y.1 ∧ R x.2 y.2) a.anonymous b.anonymous

theorem SameTypes.of_plain {a : ResolvedTypes} (plain : a.anonymous = []) : SameTypes R a a := by
  refine ⟨rfl, rfl, ?_⟩
  rw [plain]
  exact .nil

theorem SameTypes.append {a b c d : ResolvedTypes} (first : SameTypes R a b)
    (second : SameTypes R c d) : SameTypes R (a.append c) (b.append d) where
  types := by rw [ResolvedTypes.append, ResolvedTypes.append, first.types, second.types]
  named := by rw [ResolvedTypes.append, ResolvedTypes.append, first.named, second.named]
  anonymous := List.rel_append first.anonymous second.anonymous

theorem alike_resolveElements (kinds : ∀ s t, R s t → s.allowed = t.allowed) {elements : List Json}
    (each : ∀ e ∈ elements, Reads R e) (place : Nat) :
    FailsAlike (SameTypes R) (resolveElements place elements)
      (resolveElements place (elements.map pruned)) := by
  induction elements generalizing place with
  | nil => exact .ok (.of_plain rfl)
  | cons e rest ih =>
    have head := each e (.head _)
    have tail := ih (fun e member => each e (.tail _ member)) (place + 1)
    have schema (s t : Schema) (related : R s t) :
        SameTypes R (.ofSchema place s) (.ofSchema place t) :=
      ⟨kinds s t related, rfl, .cons ⟨rfl, related⟩ .nil⟩
    cases e with
    | string text =>
      refine FailsAlike.bind_self fun n => tail.bind fun a b same => .ok ?_
      exact SameTypes.append (.of_plain rfl) same
    | _ =>
      refine head.bind fun s t related => tail.bind fun a b same => .ok ?_
      exact (schema s t related).append same

theorem alike_resolve (kinds : ∀ s t, R s t → s.allowed = t.allowed) {keyword : String}
    (listed : keyword ∈ ["type", "disallow"]) {v : Json}
    (each : ∀ elements, v = .array elements → ∀ e ∈ elements, Reads R e) :
    FailsAlike (SameTypes R) (resolve v) (resolve (v.prunedAt keyword)) := by
  simp only [List.mem_cons, List.not_mem_nil, or_false] at listed
  cases v with
  | array elements =>
    have pruned : (Json.array elements).prunedAt keyword = .array (elements.map pruned) := by
      rw [← prunedElements_eq]
      rcases listed with rfl | rfl
      · rfl
      · rfl
    rw [pruned, resolve, resolve]
    have parsed := FailsAlike.mapM (forall₂_map_of_forall fun e (_ : e ∈ elements) =>
      alike_parse_pruned e)
    refine parsed.bind fun _ _ _ => ?_
    exact alike_resolveElements kinds (each elements rfl) 0
  | object members =>
    have kept : (Json.object members).prunedAt keyword = .object members := by
      rcases listed with rfl | rfl
      · rfl
      · rfl
    rw [kept]
    exact .error _
  | string text =>
    refine FailsAlike.map (R := Eq) (.refl (fun _ => rfl) _) fun a b same => ?_
    subst same
    exact .of_plain rfl
  | _ => exact .error _

-- Only objects are schemas, and nothing else compiles.
theorem reads_of_object {v : Json} (object : v.isObject = true → Reads R v) : Reads R v := by
  cases here : v.isObject with
  | true => exact object here
  | false =>
    rw [Reads, pruned_of_not_isObject here]
    cases v with
    | object => cases here
    | _ => exact .error _

section Inside

variable {members : Members}
  (inside : ∀ position sub, Subschema (.object members) position sub → Reads R sub)
include inside

theorem reads_element {keyword : String} (listed : keyword ∈ ["type", "disallow", "items"])
    {elements : List Json} (declared : members.lookup keyword = some (.array elements)) {e : Json}
    (member : e ∈ elements) : Reads R e := by
  obtain ⟨place, found⟩ := List.mem_iff_getElem?.1 member
  simp only [List.mem_cons, List.not_mem_nil, or_false] at listed
  rcases listed with rfl | rfl | rfl
  · exact reads_of_object fun object => inside _ e (.alternative declared found object)
  · exact reads_of_object fun object => inside _ e (.disallowed declared found object)
  · exact inside _ e (.item declared found)

theorem reads_value {keyword : String}
    (listed : keyword ∈ ["items", "additionalItems", "additionalProperties"]) {v : Json}
    (declared : members.lookup keyword = some v) : Reads R v := by
  simp only [List.mem_cons, List.not_mem_nil, or_false] at listed
  refine reads_of_object fun object => ?_
  rcases listed with rfl | rfl | rfl
  · exact inside _ v (.items declared object)
  · exact inside _ v (.additionalItems declared object)
  · exact inside _ v (.additionalProperties declared object)

end Inside

theorem alike_itemsOf {v : Json} (uniform : Reads R v)
    (each : ∀ elements, v = .array elements → ∀ e ∈ elements, Reads R e) :
    FailsAlike (Items.Rel R) (itemsOf "items" v (compile v) (compileElements v))
      (itemsOf "items" (v.prunedAt "items") (compile (v.prunedAt "items"))
        (compileElements (v.prunedAt "items"))) := by
  cases v with
  | array elements =>
    rw [prunedAt, if_pos (by decide), prunedElements_eq]
    simp only [itemsOf, compileElements, compileAll_eq]
    exact (FailsAlike.mapM (forall₂_map_of_forall (each elements rfl))).map fun _ _ => .tuple
  | object members =>
    rw [prunedAt, if_pos (by decide)]
    exact uniform.map fun _ _ => .uniform
  | _ => exact .error _

theorem alike_additionalOf {keyword : String}
    (listed : keyword ∈ ["additionalItems", "additionalProperties"]) {v : Json}
    (schema : Reads R v) :
    FailsAlike (Additional.Rel R) (additionalOf keyword v (compile v))
      (additionalOf keyword (v.prunedAt keyword) (compile (v.prunedAt keyword))) := by
  cases v with
  | bool flag =>
    cases flag with
    | true => exact .ok .allowed
    | false => exact .ok .forbidden
  | object members =>
    rw [prunedAt, if_pos (.tail _ listed)]
    exact schema.map fun _ _ => .schema
  | array elements =>
    rw [prunedAt]
    split
    · exact .error _
    · exact .error _
  | _ => exact .error _

theorem alike_compileMembers {properties : Members} (each : ∀ m ∈ properties, Reads R m.2) :
    FailsAlike (AlignedBy R) (compileMembers properties)
      (compileMembers (prunedProperties properties)) := by
  induction properties with
  | nil => exact .ok .nil
  | cons head rest ih =>
    obtain ⟨name, v⟩ := head
    rw [compileMembers, prunedProperties, compileMembers]
    refine FailsAlike.bind (each _ (.head _)) fun s t related => ?_
    refine (ih fun m member => each m (.tail _ member)).bind fun ss ts others => .ok ?_
    exact .cons ⟨rfl, related⟩ others

theorem alike_compileProperties {v : Json}
    (each : ∀ properties, v = .object properties → ∀ m ∈ properties, Reads R m.2) :
    FailsAlike (AlignedBy R) (compileProperties "properties" v)
      (compileProperties "properties" (v.prunedAt "properties")) := by
  cases v with
  | object properties =>
    rw [prunedAt, if_neg (by decide), if_pos rfl]
    exact alike_compileMembers (each properties rfl)
  | array elements =>
    rw [prunedAt]
    split
    · exact .error _
    · exact .error _
  | _ => exact .error _

end Readers

structure Mirrors (R : Schema → Schema → Prop) (s t : Schema) : Prop where
  allowed : s.allowed = t.allowed
  named : s.named = t.named
  parallel : Parallel R s t

theorem read_prunedMembers (members : Members) :
    ValueRules.read (prunedMembers members) = ValueRules.read members := by
  have plain : ∀ name ∈ ruleNames, name ∈ vocabulary ∧ name ∉ Frame.keywords := by decide
  refine read_congr fun name listed => ?_
  obtain ⟨known, plain⟩ := plain name listed
  exact lookup_prunedMembers_plain members known plain

theorem mirrors_assemble {R : Schema → Schema → Prop} {members members' : Members}
    {declared declared' : ResolvedTypes} (types : SameTypes R declared declared')
    (disallowed : TypeSet) (enumeration : Option (List Json)) (rules : ValueRules)
    {items items' : Items Schema} (sameItems : items.Rel R items')
    {additionalItems additionalItems' : Additional Schema}
    (sameAdditionalItems : additionalItems.Rel R additionalItems') (required : Bool)
    {properties properties' : List (String × Schema)}
    (sameProperties : AlignedBy R properties properties')
    {additionalProperties additionalProperties' : Additional Schema}
    (sameAdditionalProperties : additionalProperties.Rel R additionalProperties') :
    Mirrors R
      (assemble members declared disallowed enumeration rules items additionalItems required
        properties additionalProperties)
      (assemble members' declared' disallowed enumeration rules items' additionalItems' required
        properties' additionalProperties') where
  allowed := congrArg (·.without disallowed) types.types
  named := congrArg (·.without disallowed) types.named
  parallel := {
    enumeration := by
      cases enumeration with
      | none => exact .none
      | some values => exact .some (.refl values)
    forth := fun i x member => by
      obtain ⟨y, partner, same, related⟩ := exists_mem_of_forall₂ types.anonymous member
      exact ⟨y.1, y.2, partner, related⟩
    back := fun j y member => by
      obtain ⟨x, partner, same, related⟩ := exists_mem_of_forall₂ types.anonymous.flip member
      exact ⟨x.1, x.2, partner, related⟩
    rules := rfl
    items := sameItems
    additionalItems := sameAdditionalItems
    required := rfl
    properties := sameProperties
    additionalProperties := sameAdditionalProperties }

theorem alike_compile_pruned {R : Schema → Schema → Prop}
    (kinds : ∀ s t, R s t → s.allowed = t.allowed) {raw : Json}
    (inside : ∀ position sub, Subschema raw position sub → Reads R sub) :
    Reads (Mirrors R) raw := by
  cases raw with
  | object members =>
    rw [Reads, pruned, compile, compile]
    have types {keyword : String} (listed : keyword ∈ ["type", "disallow"])
        (known : keyword ∈ vocabulary) (plain : keyword ∈ ["type", "disallow", "items"])
        {absent : ResolvedTypes} (empty : absent.anonymous = []) :
        FailsAlike (SameTypes R) (typesIn keyword absent members)
          (typesIn keyword absent (prunedMembers members)) := by
      rw [typesIn_eq, typesIn_eq]
      refine alike_lookup known (.of_plain empty) fun v declared => alike_resolve kinds listed ?_
      rintro elements rfl e member
      exact reads_element inside plain declared member
    have additional {keyword : String}
        (listed : keyword ∈ ["additionalItems", "additionalProperties"])
        (known : keyword ∈ vocabulary) : FailsAlike (Additional.Rel R) (additionalIn keyword members)
          (additionalIn keyword (prunedMembers members)) := by
      rw [additionalIn_eq, additionalIn_eq]
      refine alike_lookup known .allowed fun v declared => alike_additionalOf listed ?_
      exact reads_value inside (.tail _ listed) declared
    have items : FailsAlike (Items.Rel R) (itemsIn "items" members)
        (itemsIn "items" (prunedMembers members)) := by
      rw [itemsIn_eq, itemsIn_eq]
      refine alike_lookup (by decide) .any fun v declared => alike_itemsOf ?_ ?_
      · exact reads_value inside (by decide) declared
      · rintro elements rfl e member
        exact reads_element inside (by decide) declared member
    have named : FailsAlike (AlignedBy R) (propertiesIn "properties" members)
        (propertiesIn "properties" (prunedMembers members)) := by
      rw [propertiesIn_eq, propertiesIn_eq]
      refine alike_lookup (by decide) .nil fun v declared => alike_compileProperties ?_
      rintro properties rfl m member
      exact inside _ m.2 (.property declared member)
    have enumeration : enumeration? (prunedMembers members) = enumeration? members := by
      rw [enumeration?, enumeration?, lookup_prunedMembers_plain members (by decide) (by decide)]
    have required : flag (prunedMembers members) "required" = flag members "required" := by
      rw [flag, flag, lookup_prunedMembers_plain members (by decide) (by decide)]
    rw [enumeration, read_prunedMembers, required]
    refine (types (by decide) (by decide) (by decide) rfl).bind fun declared declared' same => ?_
    refine (types (by decide) (by decide) (by decide) rfl).bind fun _ disallowed same' => ?_
    rw [same.types, same'.types]
    split
    · exact .error _
    refine FailsAlike.bind_self fun values => FailsAlike.bind_self fun rules => ?_
    refine items.bind fun _ _ sameItems => ?_
    refine (additional (by decide) (by decide)).bind fun _ _ sameAdditionalItems => ?_
    refine FailsAlike.bind_self fun flagged => named.bind fun _ _ sameProperties => ?_
    refine (additional (by decide) (by decide)).bind fun _ _ sameAdditionalProperties => .ok ?_
    exact mirrors_assemble same _ values rules sameItems sameAdditionalItems flagged sameProperties
      sameAdditionalProperties
  | _ => exact .error _

end Schema

end JsonSchema
