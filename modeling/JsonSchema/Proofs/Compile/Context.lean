import JsonSchema.Proofs.Compile.Grammar

set_option autoImplicit false

/-!
Documents with a hole where a schema stands, at any depth. What is put into the hole is compiled on
its own; nothing that is read before it depends on it, and what would be read after it is not read
once it fails. So its defect is the defect of the whole document.
-/

namespace JsonSchema

section Surfaces

variable {ε α β γ δ : Type} {cause : ε} {R : α → β → Prop} {S : γ → δ → Prop}

inductive Surfaces (cause : ε) (R : α → β → Prop) : Except ε α → Except ε β → Prop where
  | ok {a : α} {b : β} (related : R a b) : Surfaces cause R (.ok a) (.ok b)
  | error (e : ε) : Surfaces cause R (.error e) (.error e)
  | fails {x : Except ε α} : Surfaces cause R x (.error cause)

namespace Surfaces

theorem refl {R : α → α → Prop} (reflexive : ∀ a, R a a) (x : Except ε α) :
    Surfaces cause R x x := by
  cases x with
  | ok a => exact .ok (reflexive a)
  | error e => exact .error e

theorem bind {x : Except ε α} {y : Except ε β} {f : α → Except ε γ} {g : β → Except ε δ}
    (first : Surfaces cause R x y) (next : ∀ a b, R a b → Surfaces cause S (f a) (g b)) :
    Surfaces cause S (x >>= f) (y >>= g) := by
  cases first with
  | ok related => exact next _ _ related
  | error e => exact .error e
  | fails => exact .fails

theorem bind_self {x : Except ε α} {f : α → Except ε γ} {g : α → Except ε δ}
    (next : ∀ a, Surfaces cause S (f a) (g a)) : Surfaces cause S (x >>= f) (x >>= g) := by
  refine (refl (R := Eq) (fun _ => rfl) x).bind ?_
  intro a b same
  subst same
  exact next a

theorem bind_eq {x y : Except ε α} {f : α → Except ε γ} {g : α → Except ε δ}
    (first : Surfaces cause Eq x y) (next : ∀ a, Surfaces cause S (f a) (g a)) :
    Surfaces cause S (x >>= f) (y >>= g) := by
  apply first.bind
  intro a b same
  subst same
  exact next a

theorem map {x y : Except ε α} (first : Surfaces cause Eq x y) (f : α → γ) :
    Surfaces cause Eq (x.map f) (y.map f) := by
  cases first with
  | ok same => exact .ok (congrArg f same)
  | error e => exact .error e
  | fails => exact .fails

theorem eq_error {x : Except ε α} {y : Except ε β} (surfaces : Surfaces cause R x y)
    (goes : ∃ a, x = .ok a) (stops : ¬∃ b, y = .ok b) : y = .error cause := by
  cases surfaces with
  | ok => exact absurd ⟨_, rfl⟩ stops
  | error =>
    obtain ⟨a, same⟩ := goes
    cases same
  | fails => rfl

end Surfaces

end Surfaces

inductive Frame where
  | alternative (earlier later : List Json)
  | disallowed (earlier later : List Json)
  | items
  | item (earlier later : List Json)
  | additionalItems
  | property (earlier : List (String × Json)) (name : String) (later : List (String × Json))
  | additionalProperties

namespace Frame

def keyword : Frame → String
  | alternative .. => "type"
  | disallowed .. => "disallow"
  | items => "items"
  | item .. => "items"
  | additionalItems => "additionalItems"
  | property .. => "properties"
  | additionalProperties => "additionalProperties"

def value : Frame → Json → Json
  | alternative earlier later, v => .array (earlier ++ v :: later)
  | disallowed earlier later, v => .array (earlier ++ v :: later)
  | items, v => v
  | item earlier later, v => .array (earlier ++ v :: later)
  | additionalItems, v => v
  | property earlier name later, v => .object (earlier ++ (name, v) :: later)
  | additionalProperties, v => v

def position : Frame → Position
  | alternative earlier _ => .alternative earlier.length
  | disallowed earlier _ => .disallowed earlier.length
  | items => .items
  | item earlier _ => .item earlier.length
  | additionalItems => .additionalItems
  | property _ name _ => .property name
  | additionalProperties => .additionalProperties

def keywords : List String :=
  ["type", "disallow", "items", "additionalItems", "properties", "additionalProperties"]

theorem keyword_mem_keywords (frame : Frame) : frame.keyword ∈ keywords := by
  cases frame <;> simp [keyword, keywords]

end Frame

/-- A schema document with a hole. The first value of the keyword is the one with the hole. -/
structure Layer where
  before : List (String × Json)
  frame : Frame
  after : List (String × Json)
  fresh : before.lookup frame.keyword = none

namespace Layer

open Keyword

variable (layer : Layer)

def members (v : Json) : List (String × Json) :=
  layer.before ++ (layer.frame.keyword, layer.frame.value v) :: layer.after

def fill (v : Json) : Json := .object (layer.members v)

theorem lookup_keyword (v : Json) :
    (layer.members v).lookup layer.frame.keyword = some (layer.frame.value v) := by
  rw [members, List.lookup_append, layer.fresh, List.lookup_cons_self]
  rfl

theorem lookup_other {name : String} (other : name ≠ layer.frame.keyword) (a b : Json) :
    (layer.members a).lookup name = (layer.members b).lookup name := by
  have skip : (name == layer.frame.keyword) = false := by simpa using other
  simp only [members, List.lookup_append, List.lookup_cons, skip]

theorem lookup_plain {name : String} (plain : name ∉ Frame.keywords) (a b : Json) :
    (layer.members a).lookup name = (layer.members b).lookup name := by
  apply layer.lookup_other
  intro same
  rw [same] at plain
  exact plain layer.frame.keyword_mem_keywords

theorem enumeration?_members (a b : Json) :
    enumeration? (layer.members a) = enumeration? (layer.members b) := by
  rw [enumeration?, enumeration?, layer.lookup_plain (by decide) a b]

theorem flag_members (a b : Json) :
    flag (layer.members a) "required" = flag (layer.members b) "required" := by
  rw [flag, flag, layer.lookup_plain (by decide) a b]

theorem subschema_fill {v : Json} (object : v.isObject = true) :
    Subschema (layer.fill v) layer.frame.position v := by
  have declared : (layer.fill v).member? layer.frame.keyword = some (layer.frame.value v) :=
    layer.lookup_keyword v
  generalize layer.fill v = document at declared
  have here (earlier later : List Json) : (earlier ++ v :: later)[earlier.length]? = some v := by
    simp
  generalize layer.frame = frame at declared
  cases frame with
  | alternative earlier later => exact .alternative declared (here earlier later) object
  | disallowed earlier later => exact .disallowed declared (here earlier later) object
  | items => exact .items declared object
  | item earlier later => exact .item declared (here earlier later)
  | additionalItems => exact .additionalItems declared object
  | property earlier name later =>
    exact .property declared (List.mem_append_right _ List.mem_cons_self)
  | additionalProperties => exact .additionalProperties declared object

-- A keyword is read from its own value: one that has no hole is read alike on both sides.
theorem surfaces_read {α : Type} {a b : Json} {cause : SchemaError}
    {read : Members → Except SchemaError α} {keyword : String}
    (depends : ∀ m m', m.lookup keyword = m'.lookup keyword → read m = read m')
    (here : keyword = layer.frame.keyword →
      Surfaces cause Eq (read (layer.members a)) (read (layer.members b))) :
    Surfaces cause Eq (read (layer.members a)) (read (layer.members b)) := by
  by_cases same : keyword = layer.frame.keyword
  · exact here same
  · rw [depends _ _ (layer.lookup_other same a b)]
    exact .refl (fun _ => rfl) _

end Layer

abbrev Context := List Layer

namespace Context

variable (context : Context)

def fill (v : Json) : Json := context.foldr Layer.fill v

theorem isObject_fill {v : Json} (object : v.isObject = true) :
    (context.fill v).isObject = true := by
  cases context with
  | nil => exact object
  | cons => rfl

end Context

section

variable [PatternEngine]

theorem Layer.read_members (layer : Layer) (a b : Json) :
    ValueRules.read (layer.members a) = ValueRules.read (layer.members b) := by
  have plain : ∀ name ∈ Schema.ruleNames, name ∉ Frame.keywords := by decide
  exact Schema.read_congr fun name listed => layer.lookup_plain (plain name listed) a b

namespace Schema

open Keyword

variable {a b : Json} {cause : SchemaError}

section Rows

variable (failed : compile b = .error cause)
include failed

theorem surfaces_compileAll (earlier later : List Json) :
    Surfaces cause Eq (compileAll (earlier ++ a :: later))
      (compileAll (earlier ++ b :: later)) := by
  induction earlier with
  | nil =>
    rw [List.nil_append, List.nil_append, compileAll, compileAll, failed]
    exact .fails
  | cons e rest ih =>
    rw [List.cons_append, List.cons_append, compileAll, compileAll]
    exact .bind_self fun s => ih.bind_eq fun tail => .ok rfl

theorem surfaces_compileMembers (earlier later : Members) (name : String) :
    Surfaces cause Eq (compileMembers (earlier ++ (name, a) :: later))
      (compileMembers (earlier ++ (name, b) :: later)) := by
  induction earlier with
  | nil =>
    rw [List.nil_append, List.nil_append, compileMembers, compileMembers, failed]
    exact .fails
  | cons e rest ih =>
    rw [List.cons_append, List.cons_append, compileMembers, compileMembers]
    exact .bind_self fun s => ih.bind_eq fun tail => .ok rfl

variable (whole : a.isObject = true) (object : b.isObject = true)
include object

theorem surfaces_resolveElements (place : Nat) (earlier later : List Json) :
    Surfaces cause Eq (resolveElements place (earlier ++ a :: later))
      (resolveElements place (earlier ++ b :: later)) := by
  induction earlier generalizing place with
  | nil =>
    have stops : resolveElements place (b :: later) = .error cause := by
      obtain ⟨members, rfl⟩ := (Json.isObject_iff b).1 object
      rw [resolveElements, failed]
      · rfl
      · intro text same
        cases same
    rw [List.nil_append, List.nil_append, stops]
    exact .fails
  | cons e rest ih =>
    rw [List.cons_append, List.cons_append]
    cases e <;> exact .bind_self fun _ => (ih _).bind_eq fun tail => .ok rfl

include whole

-- The forms of the elements are checked first, and all that is asked of the two is an object.
theorem surfaces_resolve (earlier later : List Json) :
    Surfaces cause Eq (resolve (.array (earlier ++ a :: later)))
      (resolve (.array (earlier ++ b :: later))) := by
  have forms : Surfaces cause (fun _ _ => True)
      ((earlier ++ a :: later).mapM TypeElement.parse)
      ((earlier ++ b :: later).mapM TypeElement.parse) := by
    obtain ⟨_, rfl⟩ := (Json.isObject_iff a).1 whole
    obtain ⟨_, rfl⟩ := (Json.isObject_iff b).1 object
    induction earlier with
    | nil =>
      rw [List.nil_append, List.nil_append, List.mapM_cons, List.mapM_cons]
      exact .bind (R := fun _ _ => True) (.ok trivial) fun _ _ _ => .bind_self fun _ => .ok trivial
    | cons e rest ih =>
      rw [List.cons_append, List.cons_append, List.mapM_cons, List.mapM_cons]
      exact .bind_self fun _ => ih.bind fun _ _ _ => .ok trivial
  rw [resolve, resolve]
  exact forms.bind fun _ _ _ => surfaces_resolveElements failed object 0 earlier later

end Rows

section Layers

variable (layer : Layer)

variable (failed : compile b = .error cause) (whole : a.isObject = true)
  (object : b.isObject = true)
include failed object

theorem surfaces_itemsIn :
    Surfaces cause Eq (itemsIn "items" (layer.members a)) (itemsIn "items" (layer.members b)) := by
  apply layer.surfaces_read
  · intro m m' same
    rw [itemsIn_eq, itemsIn_eq, same]
  intro here
  rw [itemsIn_eq, itemsIn_eq, here, layer.lookup_keyword, layer.lookup_keyword]
  generalize layer.frame = frame at here
  cases frame with
  | items =>
    obtain ⟨_, rfl⟩ := (Json.isObject_iff b).1 object
    dsimp only [Frame.value]
    rw [failed]
    exact .fails
  | item earlier later => exact (surfaces_compileAll failed earlier later).map _
  | _ => simp [Frame.keyword] at here

theorem surfaces_additionalIn {keyword : String}
    (listed : keyword ∈ ["additionalItems", "additionalProperties"]) :
    Surfaces cause Eq (additionalIn keyword (layer.members a))
      (additionalIn keyword (layer.members b)) := by
  apply layer.surfaces_read
  · intro m m' same
    rw [additionalIn_eq, additionalIn_eq, same]
  intro here
  rw [additionalIn_eq, additionalIn_eq, here, layer.lookup_keyword, layer.lookup_keyword]
  rw [here] at listed
  generalize layer.frame = frame at listed
  cases frame with
  | additionalItems | additionalProperties =>
    obtain ⟨_, rfl⟩ := (Json.isObject_iff b).1 object
    dsimp only [Frame.value]
    rw [failed]
    exact .fails
  | _ => simp [Frame.keyword] at listed

omit object in
theorem surfaces_propertiesIn :
    Surfaces cause Eq (propertiesIn "properties" (layer.members a))
      (propertiesIn "properties" (layer.members b)) := by
  apply layer.surfaces_read
  · intro m m' same
    rw [propertiesIn_eq, propertiesIn_eq, same]
  intro here
  rw [propertiesIn_eq, propertiesIn_eq, here, layer.lookup_keyword, layer.lookup_keyword]
  generalize layer.frame = frame at here
  cases frame with
  | property earlier name later => exact surfaces_compileMembers failed earlier later name
  | _ => simp [Frame.keyword] at here

include whole

theorem surfaces_typesIn {keyword : String} (listed : keyword ∈ ["type", "disallow"])
    (absent : ResolvedTypes) :
    Surfaces cause Eq (typesIn keyword absent (layer.members a))
      (typesIn keyword absent (layer.members b)) := by
  apply layer.surfaces_read
  · intro m m' same
    rw [typesIn_eq, typesIn_eq, same]
  intro here
  rw [typesIn_eq, typesIn_eq, here, layer.lookup_keyword, layer.lookup_keyword]
  rw [here] at listed
  generalize layer.frame = frame at listed
  cases frame with
  | alternative earlier later | disallowed earlier later =>
    exact surfaces_resolve failed whole object earlier later
  | _ => simp [Frame.keyword] at listed

theorem surfaces_compile :
    Surfaces cause (fun _ _ => True) (compile (layer.fill a)) (compile (layer.fill b)) := by
  rw [Layer.fill, Layer.fill, compile, compile]
  refine (surfaces_typesIn layer failed whole object (by simp) _).bind_eq fun declared => ?_
  refine (surfaces_typesIn layer failed whole object (by simp) _).bind_eq fun disallowed => ?_
  split
  · exact .error _
  · rw [layer.enumeration?_members a b]
    refine .bind_self fun enumeration => ?_
    rw [layer.read_members a b]
    refine .bind_self fun rules => ?_
    refine (surfaces_itemsIn layer failed object).bind_eq fun items => ?_
    refine (surfaces_additionalIn layer failed object (by simp)).bind_eq fun additionalItems => ?_
    rw [layer.flag_members a b]
    refine .bind_self fun required => ?_
    refine (surfaces_propertiesIn layer failed).bind_eq fun properties => ?_
    refine (surfaces_additionalIn layer failed object (by simp)).bind_eq fun _ => ?_
    exact .ok trivial

theorem compile_layer_eq_error {s : Schema} (compiled : Compiles (layer.fill a) s) :
    compile (layer.fill b) = .error cause := by
  apply (surfaces_compile layer failed whole object).eq_error ⟨s, compiled⟩
  intro accepted
  obtain ⟨t, compiles⟩ := accepted
  obtain ⟨u, nested⟩ := Compiles.subschema compiles (layer.subschema_fill object)
  rw [Compiles, failed] at nested
  cases nested

end Layers

end Schema

namespace Context

open Schema

variable (context : Context)

theorem compile_fill_eq_error {sample broken : Json} {s : Schema} {cause : SchemaError}
    (compiled : Compiles (context.fill sample) s) (whole : sample.isObject = true)
    (object : broken.isObject = true) (failed : Schema.compile broken = .error cause) :
    Schema.compile (context.fill broken) = .error cause := by
  induction context generalizing s with
  | nil => exact failed
  | cons layer rest ih =>
    have filled := isObject_fill rest whole
    obtain ⟨t, nested⟩ := Compiles.subschema compiled (layer.subschema_fill filled)
    exact compile_layer_eq_error layer (ih nested) filled (isObject_fill rest object) compiled

/-- A schema that is invalid by itself makes every document that it stands in invalid, wherever it
stands there and however deep. The message of the document is the one message of the schema, as
long as something else in its place would have been valid. -/
theorem messages_fill_of_invalid {sample broken : Json}
    (valid : (Node.compile sample).isValid = true)
    (fits : (Node.compile (context.fill sample)).isValid = true) (object : broken.isObject = true)
    (invalid : (Node.compile broken).isValid = false) :
    (Node.compile (context.fill broken)).isValid = false ∧
      ∃ message, (Node.compile broken).messages = [message] ∧
        (Node.compile (context.fill broken)).messages = [message] := by
  obtain ⟨_, whole⟩ := (isValid_compile_iff sample).1 valid
  obtain ⟨s, compiled⟩ := (isValid_compile_iff _).1 fits
  cases outcome : Schema.compile broken with
  | ok t =>
    rw [(isValid_compile_iff broken).2 ⟨t, outcome⟩] at invalid
    cases invalid
  | error cause =>
    have failed := context.compile_fill_eq_error compiled whole.isObject object outcome
    refine ⟨?_, cause.message, ?_, ?_⟩
    · rw [Node.isValid, Node.schema?, Node.compile, failed]
      rfl
    · rw [Node.messages, Node.compile, outcome]
    · rw [Node.messages, Node.compile, failed]

end Context

end

namespace Context

-- What an alternative for the second element of a row takes away, the row being any further member.
def rowContext : Context := [
  ⟨[], .additionalProperties, [("type", .string "object")], rfl⟩,
  ⟨[("additionalItems", .bool false)], .item [.object []] [], [("uniqueItems", .bool true)], rfl⟩,
  ⟨[("disallow", .string "array")], .alternative [.string "null"] [.string "boolean"], [], rfl⟩,
  ⟨[], .disallowed [.string "object"] [], [("maxLength", .number (.integer 7 (by decide)))], rfl⟩]

def onlyNull : Json := .object [("type", .string "null")]

def nothingAllowed : Json := .object [("disallow", .string "any"), ("enum", .null)]

theorem messages_fill_of_invalid_row :
    (Node.compile onlyNull).isValid = true ∧
      (Node.compile (rowContext.fill onlyNull)).isValid = true ∧
      (Node.compile nothingAllowed).isValid = false ∧
      (Node.compile (rowContext.fill nothingAllowed)).messages =
        ["schema does not allow any type??"] := by
  have valid : (Node.compile onlyNull).isValid = true := rfl
  have fits : (Node.compile (rowContext.fill onlyNull)).isValid = true := by decide +kernel
  have invalid : (Node.compile nothingAllowed).isValid = false := rfl
  have surfaces := messages_fill_of_invalid rowContext valid fits rfl invalid
  obtain ⟨_, message, alone, inside⟩ := surfaces
  refine ⟨valid, fits, invalid, ?_⟩
  rw [inside, ← alone]
  rfl

end Context

end JsonSchema
