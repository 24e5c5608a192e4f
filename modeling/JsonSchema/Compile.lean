import JsonSchema.Schema
import JsonSchema.TypeSpec

set_option autoImplicit false

namespace JsonSchema

variable [PatternEngine]

structure ResolvedTypes where
  types : TypeSet
  named : TypeSet
  anonymous : List (Nat × Schema)

namespace ResolvedTypes

def universal : ResolvedTypes := ⟨.all, .all, []⟩

def nothing : ResolvedTypes := ⟨.empty, .empty, []⟩

def ofName (n : TypeName) : ResolvedTypes := ⟨.ofName n, .ofName n, []⟩

def ofSchema (place : Nat) (s : Schema) : ResolvedTypes := ⟨s.allowed, .empty, [(place, s)]⟩

def append (a b : ResolvedTypes) : ResolvedTypes :=
  ⟨a.types.union b.types, a.named.union b.named, a.anonymous ++ b.anonymous⟩

end ResolvedTypes

namespace Schema

open Keyword (Members)

def assemble (members : Members) (declared : ResolvedTypes) (disallowed : TypeSet)
    (enumeration : Option (List Json)) (rules : ValueRules) (items : Items Schema)
    (additionalItems : Additional Schema) (required : Bool) (properties : List (String × Schema))
    (additionalProperties : Additional Schema) : Schema where
  raw := .object members
  allowed := declared.types.without disallowed
  named := declared.named.without disallowed
  enumeration := enumeration
  alternatives := declared.anonymous
  rules := rules
  items := items
  additionalItems := additionalItems
  required := required
  properties := properties
  additionalProperties := additionalProperties

def itemsOf (keyword : String) (v : Json) (schema : Except SchemaError Schema)
    (schemas : Except SchemaError (List Schema)) : Except SchemaError (Items Schema) :=
  match v with
  | .array _ => schemas.map .tuple
  | .object _ => schema.map .uniform
  | _ => .error (.badKeyword keyword "a schema or an array of schemas")

def additionalOf (keyword : String) (v : Json) (schema : Except SchemaError Schema) :
    Except SchemaError (Additional Schema) :=
  match v with
  | .bool true => .ok .allowed
  | .bool false => .ok .forbidden
  | .object _ => schema.map .schema
  | _ => .error (.badKeyword keyword "a boolean or a schema")

mutual

def compile : Json → Except SchemaError Schema
  | .object members => do
    let declared ← typesIn "type" .universal members
    let disallowed ← typesIn "disallow" .nothing members
    if (declared.types.without disallowed.types).isEmpty then throw .noTypes
    let enumeration ← Keyword.enumeration? members
    let rules ← ValueRules.read members
    let items ← itemsIn "items" members
    let additionalItems ← additionalIn "additionalItems" members
    let required ← Keyword.flag members "required"
    let properties ← propertiesIn "properties" members
    let additionalProperties ← additionalIn "additionalProperties" members
    return assemble members declared disallowed.types enumeration rules items additionalItems
      required properties additionalProperties
  | _ => .error .notObject
termination_by structural v => v

def compileAll : List Json → Except SchemaError (List Schema)
  | [] => .ok []
  | v :: rest => do return (← compile v) :: (← compileAll rest)
termination_by structural vs => vs

def compileMembers : List (String × Json) → Except SchemaError (List (String × Schema))
  | [] => .ok []
  | (key, v) :: rest => do return (key, ← compile v) :: (← compileMembers rest)
termination_by structural members => members

def resolveElements (place : Nat) : List Json → Except SchemaError ResolvedTypes
  | [] => .ok .nothing
  | .string text :: rest => do
    let n ← TypeName.parse text
    return (ResolvedTypes.ofName n).append (← resolveElements (place + 1) rest)
  | v :: rest => do
    let s ← compile v
    return (ResolvedTypes.ofSchema place s).append (← resolveElements (place + 1) rest)
termination_by structural elements => elements

/-- The kinds for the value of `type` or `disallow`. The form of every element is checked before a
schema among them is compiled. -/
def resolve : Json → Except SchemaError ResolvedTypes
  | .string text => (TypeName.parse text).map .ofName
  | .array elements => do
    let _ ← elements.mapM TypeElement.parse
    resolveElements 0 elements
  | _ => .error .typeShape
termination_by structural v => v

def typesIn (keyword : String) (absent : ResolvedTypes) :
    List (String × Json) → Except SchemaError ResolvedTypes
  | [] => .ok absent
  | (key, v) :: rest => if keyword == key then resolve v else typesIn keyword absent rest
termination_by structural members => members

def compileElements : Json → Except SchemaError (List Schema)
  | .array elements => compileAll elements
  | _ => .ok []
termination_by structural v => v

def itemsIn (keyword : String) : List (String × Json) → Except SchemaError (Items Schema)
  | [] => .ok .any
  | (key, v) :: rest =>
    if keyword == key then itemsOf keyword v (compile v) (compileElements v)
    else itemsIn keyword rest
termination_by structural members => members

def additionalIn (keyword : String) :
    List (String × Json) → Except SchemaError (Additional Schema)
  | [] => .ok .allowed
  | (key, v) :: rest =>
    if keyword == key then additionalOf keyword v (compile v) else additionalIn keyword rest
termination_by structural members => members

def compileProperties (keyword : String) : Json → Except SchemaError (List (String × Schema))
  | .object members => compileMembers members
  | _ => .error (.badKeyword keyword "an object of schemas")
termination_by structural v => v

def propertiesIn (keyword : String) :
    List (String × Json) → Except SchemaError (List (String × Schema))
  | [] => .ok []
  | (key, v) :: rest =>
    if keyword == key then compileProperties keyword v else propertiesIn keyword rest
termination_by structural members => members

end

theorem typesIn_eq (keyword : String) (absent : ResolvedTypes) (members : Members) :
    typesIn keyword absent members = match members.lookup keyword with
      | none => .ok absent
      | some v => resolve v := by
  induction members with
  | nil => rfl
  | cons head rest ih =>
    rw [typesIn, List.lookup_cons]
    cases keyword == head.1 <;> simp [ih]

theorem itemsIn_eq (keyword : String) (members : Members) :
    itemsIn keyword members = match members.lookup keyword with
      | none => .ok .any
      | some v => itemsOf keyword v (compile v) (compileElements v) := by
  induction members with
  | nil => rfl
  | cons head rest ih =>
    rw [itemsIn, List.lookup_cons]
    cases keyword == head.1 <;> simp [ih]

theorem additionalIn_eq (keyword : String) (members : Members) :
    additionalIn keyword members = match members.lookup keyword with
      | none => .ok .allowed
      | some v => additionalOf keyword v (compile v) := by
  induction members with
  | nil => rfl
  | cons head rest ih =>
    rw [additionalIn, List.lookup_cons]
    cases keyword == head.1 <;> simp [ih]

theorem propertiesIn_eq (keyword : String) (members : Members) :
    propertiesIn keyword members = match members.lookup keyword with
      | none => .ok []
      | some v => compileProperties keyword v := by
  induction members with
  | nil => rfl
  | cons head rest ih =>
    rw [propertiesIn, List.lookup_cons]
    cases keyword == head.1 <;> simp [ih]

theorem compileAll_eq (elements : List Json) : compileAll elements = elements.mapM compile := by
  induction elements with
  | nil => rfl
  | cons v rest ih => rw [compileAll, ih, List.mapM_cons]

end Schema

def TypeElement.resolve (place : Nat) : TypeElement → Except SchemaError ResolvedTypes
  | .name n => .ok (.ofName n)
  | .anonymous raw => (Schema.compile raw).map (.ofSchema place)

namespace TypeSpec

def resolveFrom (place : Nat) : List TypeElement → Except SchemaError ResolvedTypes
  | [] => .ok .nothing
  | e :: rest => do return (← e.resolve place).append (← resolveFrom (place + 1) rest)

def resolve : TypeSpec → Except SchemaError ResolvedTypes
  | .single e => e.resolve 0
  | .union elements => resolveFrom 0 elements

end TypeSpec

theorem Schema.resolveElements_eq {elements : List Json} {parsed : List TypeElement}
    (h : elements.mapM TypeElement.parse = .ok parsed) (place : Nat) :
    resolveElements place elements = TypeSpec.resolveFrom place parsed := by
  induction elements generalizing parsed place with
  | nil => cases h; rfl
  | cons v rest ih =>
    rw [List.mapM_cons] at h
    cases hv : TypeElement.parse v with
    | error e => rw [hv] at h; cases h
    | ok e =>
      cases hr : rest.mapM TypeElement.parse with
      | error e => rw [hv, hr] at h; cases h
      | ok es =>
        rw [hv, hr] at h
        cases h
        cases v with
        | string text =>
          cases hn : TypeName.parse text with
          | error e => simp [TypeElement.parse, hn, Except.map] at hv
          | ok n =>
            simp only [TypeElement.parse, hn, Except.map, Except.ok.injEq] at hv
            subst hv
            simp only [resolveElements, hn, TypeSpec.resolveFrom, TypeElement.resolve, ih hr]
            rfl
        | object members =>
          cases hv
          simp only [resolveElements, TypeSpec.resolveFrom, TypeElement.resolve, ih hr]
          cases Schema.compile (.object members) <;> rfl
        | _ => cases hv

theorem Schema.resolve_eq (v : Json) : resolve v = (TypeSpec.parse v).bind TypeSpec.resolve := by
  cases v with
  | string text =>
    rw [resolve, TypeSpec.parse]
    cases TypeName.parse text <;> rfl
  | array elements =>
    rw [resolve, TypeSpec.parse]
    cases h : elements.mapM TypeElement.parse with
    | error e => rfl
    | ok parsed => exact resolveElements_eq h 0
  | _ => rfl

end JsonSchema
