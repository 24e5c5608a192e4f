import JsonSchema.Keyword.Check
import JsonSchema.Report

set_option autoImplicit false

namespace JsonSchema

variable [PatternEngine]

abbrev Check := Schema → Json → Pointer → List String

namespace Schema

def ownDiagnostics (o : Options) (checks : List Check) (s : Schema) (v : Json) (p : Pointer) :
    List Diagnostic :=
  (match s.enumeration with
    | none => []
    | some values =>
      if values.any (·.equals v) then []
      else [⟨.enumMismatch, p, "node does not match any value in the enumeration"⟩])
  ++ (if o.structural then (s.messages v).map (⟨.keyword, p, ·⟩) else [])
  ++ checks.flatMap fun check => (check s v p).map (⟨.keyword, p, ·⟩)

def kindMismatch (s : Schema) (kind : Kind) (p : Pointer) : Diagnostic :=
  ⟨.typeMismatch, p, "node is of type " ++ kind.name ++ ", expected one of " ++ s.allowed.write⟩

def alternativeMismatch (p : Pointer) : Diagnostic :=
  ⟨.typeMismatch, p, "node does not match any schema in the type property array"⟩

def depthDiagnostic (o : Options) (p : Pointer) : Diagnostic :=
  ⟨.tooDeep, p, "maximum validation depth " ++ toString o.maxDepth ++ " exceeded"⟩

mutual

def visit (o : Options) (checks : List Check) : Schema → Json → Pointer → List Diagnostic
  | s@⟨_, allowed, named, _, alternatives, _, items, additionalItems, _, properties,
      additionalProperties⟩, v, p =>
    if o.maxDepth < p.depth then [depthDiagnostic o p]
    else if !allowed.admits (Kind.of v) then [s.kindMismatch (Kind.of v) p]
    else if named.admits (Kind.of v) || visitAlternatives o checks alternatives v p then
      ownDiagnostics o checks s v p ++
        if o.structural then
          match v with
          | .array elements =>
            elements.zipIdx.flatMap fun (w, i) =>
              match visitItems o checks items i w (p.index i) with
              | some found => found
              | none => visitAdditional o checks additionalItems w (p.index i)
          | .object members =>
            members.flatMap fun (name, w) =>
              match visitProperty o checks properties name w (p.key name) with
              | some found => found
              | none => visitAdditional o checks additionalProperties w (p.key name)
          | _ => []
        else []
    else [alternativeMismatch p]
termination_by structural s => s

def visitAlternatives (o : Options) (checks : List Check) :
    List (Nat × Schema) → Json → Pointer → Bool
  | [], _, _ => false
  | (_, s) :: rest, v, p =>
    (s.allowed.admits (Kind.of v) && (visit o checks s v p).isEmpty)
      || visitAlternatives o checks rest v p
termination_by structural alternatives => alternatives

def visitItems (o : Options) (checks : List Check) :
    Items Schema → Nat → Json → Pointer → Option (List Diagnostic)
  | .any, _, _, _ => some []
  | .uniform s, _, v, p => some (visit o checks s v p)
  | .tuple schemas, i, v, p => visitTuple o checks schemas i v p
termination_by structural items => items

def visitTuple (o : Options) (checks : List Check) :
    List Schema → Nat → Json → Pointer → Option (List Diagnostic)
  | [], _, _, _ => none
  | s :: _, 0, v, p => some (visit o checks s v p)
  | _ :: rest, i + 1, v, p => visitTuple o checks rest i v p
termination_by structural schemas => schemas

def visitProperty (o : Options) (checks : List Check) :
    List (String × Schema) → String → Json → Pointer → Option (List Diagnostic)
  | [], _, _, _ => none
  | (key, s) :: rest, name, v, p =>
    if name == key then some (visit o checks s v p) else visitProperty o checks rest name v p
termination_by structural properties => properties

def visitAdditional (o : Options) (checks : List Check) :
    Additional Schema → Json → Pointer → List Diagnostic
  | .schema s, v, p => visit o checks s v p
  | _, _, _ => []
termination_by structural additional => additional

end

theorem visitAlternatives_eq (o : Options) (checks : List Check) (v : Json) (p : Pointer)
    (alternatives : List (Nat × Schema)) :
    visitAlternatives o checks alternatives v p = alternatives.any fun (_, s) =>
      s.allowed.admits (Kind.of v) && (visit o checks s v p).isEmpty := by
  induction alternatives with
  | nil => rfl
  | cons head rest ih => rw [visitAlternatives, ih]; rfl

theorem visitTuple_eq (o : Options) (checks : List Check) (v : Json) (p : Pointer)
    (schemas : List Schema) (i : Nat) :
    visitTuple o checks schemas i v p = schemas[i]?.map (visit o checks · v p) := by
  induction schemas generalizing i with
  | nil => rfl
  | cons head rest ih => cases i <;> simp [visitTuple, ih]

theorem visitProperty_eq (o : Options) (checks : List Check) (v : Json) (p : Pointer)
    (properties : List (String × Schema)) (name : String) :
    visitProperty o checks properties name v p
      = (properties.lookup name).map (visit o checks · v p) := by
  induction properties with
  | nil => rfl
  | cons head rest ih =>
    rw [visitProperty, List.lookup_cons]
    cases name == head.1 <;> simp [ih]

theorem visitAdditional_eq (o : Options) (checks : List Check) (v : Json) (p : Pointer)
    (additional : Additional Schema) :
    visitAdditional o checks additional v p
      = (additional.schema?.map (visit o checks · v p)).getD [] := by
  cases additional <;> simp [visitAdditional, Additional.schema?]

def inner (o : Options) (checks : List Check) (s : Schema) (v : Json) (p : Pointer) :
    List Diagnostic :=
  match v with
  | .array elements => elements.zipIdx.flatMap fun x =>
    ((s.itemSchema? x.2).map (visit o checks · x.1 (p.index x.2))).getD []
  | .object members => members.flatMap fun m =>
    ((s.propertySchema? m.1).map (visit o checks · m.2 (p.key m.1))).getD []
  | _ => []

def typePasses (o : Options) (checks : List Check) (s : Schema) (v : Json) (p : Pointer) : Bool :=
  s.named.admits (Kind.of v) || s.alternatives.any fun (_, t) =>
    t.allowed.admits (Kind.of v) && (visit o checks t v p).isEmpty

theorem visitItems_eq (o : Options) (checks : List Check) (s : Schema) (i : Nat) (v : Json)
    (p : Pointer) :
    (match visitItems o checks s.items i v p with
      | some found => found
      | none => visitAdditional o checks s.additionalItems v p)
      = ((s.itemSchema? i).map (visit o checks · v p)).getD [] := by
  rw [itemSchema?, visitAdditional_eq]
  cases s.items with
  | any => rfl
  | uniform t => rfl
  | tuple schemas =>
    rw [visitItems, visitTuple_eq]
    cases h : schemas[i]? <;> simp [h]

theorem visitProperties_eq (o : Options) (checks : List Check) (s : Schema) (name : String)
    (v : Json) (p : Pointer) :
    (match visitProperty o checks s.properties name v p with
      | some found => found
      | none => visitAdditional o checks s.additionalProperties v p)
      = ((s.propertySchema? name).map (visit o checks · v p)).getD [] := by
  rw [propertySchema?, visitAdditional_eq, visitProperty_eq]
  cases s.properties.lookup name <;> simp

theorem visit_eq (o : Options) (checks : List Check) (s : Schema) (v : Json) (p : Pointer) :
    visit o checks s v p =
      if o.maxDepth < p.depth then [depthDiagnostic o p]
      else if !s.allowed.admits (Kind.of v) then [s.kindMismatch (Kind.of v) p]
      else if s.typePasses o checks v p then
        ownDiagnostics o checks s v p ++ if o.structural then s.inner o checks v p else []
      else [alternativeMismatch p] := by
  rw [typePasses, ← visitAlternatives_eq]
  obtain ⟨raw, allowed, named, enumeration, alternatives, rules, items, additionalItems, required,
    properties, additionalProperties⟩ := s
  cases v with
  | array elements =>
    simp only [visit, inner, ← visitItems_eq]
  | object members =>
    simp only [visit, inner, ← visitProperties_eq]
  | _ => simp only [visit, inner]

end Schema

end JsonSchema
