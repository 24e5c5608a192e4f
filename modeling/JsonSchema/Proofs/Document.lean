import JsonSchema.Json.Basic
import JsonSchema.Pointer

set_option autoImplicit false

namespace JsonSchema

theorem mem_of_lookup {α : Type} {key : String} {a : α} {pairs : List (String × α)}
    (found : pairs.lookup key = some a) : (key, a) ∈ pairs := by
  obtain ⟨before, after, split, _⟩ := List.lookup_eq_some_iff.1 found
  simp [split]

inductive Step where
  | key (name : String)
  | index (place : Nat)
deriving DecidableEq

def Step.text : Step → String
  | key name => name
  | index place => toString place

def Pointer.step (p : Pointer) (step : Step) : Pointer := p.key step.text

@[simp] theorem Pointer.depth_step (p : Pointer) (step : Step) :
    (p.step step).depth = p.depth + 1 := depth_key p _

namespace Json

def isObject : Json → Bool
  | .object _ => true
  | _ => false

theorem isObject_iff (v : Json) : v.isObject = true ↔ ∃ members, v = .object members := by
  cases v <;> simp [isObject]

def member? : Json → String → Option Json
  | .object members, name => members.lookup name
  | _, _ => none

@[simp] theorem member?_object (members : List (String × Json)) (name : String) :
    (Json.object members).member? name = members.lookup name := rfl

def places : Json → List (Step × Json)
  | .array elements => elements.zipIdx.map fun (w, i) => (.index i, w)
  | .object members => members.map fun (name, w) => (.key name, w)
  | _ => []

theorem mem_places_array (elements : List Json) (step : Step) (w : Json) :
    (step, w) ∈ (Json.array elements).places ↔
      ∃ i, elements[i]? = some w ∧ step = .index i := by
  simp only [places, List.mem_map, Prod.exists, List.mk_mem_zipIdx_iff_getElem?, Prod.mk.injEq]
  constructor
  · intro place
    obtain ⟨w', i, found, rfl, rfl⟩ := place
    exact ⟨i, found, rfl⟩
  · intro element
    obtain ⟨i, found, rfl⟩ := element
    exact ⟨w, i, found, rfl, rfl⟩

theorem mem_places_object (members : List (String × Json)) (step : Step) (w : Json) :
    (step, w) ∈ (Json.object members).places ↔
      ∃ name, (name, w) ∈ members ∧ step = .key name := by
  simp only [places, List.mem_map, Prod.exists, Prod.mk.injEq]
  constructor
  · intro place
    obtain ⟨name, w', member, rfl, rfl⟩ := place
    exact ⟨name, member, rfl⟩
  · intro entry
    obtain ⟨name, member, rfl⟩ := entry
    exact ⟨name, w, member, rfl, rfl⟩

theorem exists_mem_places_array {elements : List Json} {v : Json} (member : v ∈ elements) :
    ∃ step, (step, v) ∈ (Json.array elements).places := by
  obtain ⟨i, found⟩ := List.mem_iff_getElem?.1 member
  exact ⟨_, (mem_places_array ..).2 ⟨i, found, rfl⟩⟩

theorem exists_mem_places_object {members : List (String × Json)} {key : String} {v : Json}
    (member : (key, v) ∈ members) : ∃ step, (step, v) ∈ (Json.object members).places :=
  ⟨_, (mem_places_object ..).2 ⟨key, member, rfl⟩⟩

mutual

def depth : Json → Nat
  | .array elements => depthOfElements elements
  | .object members => depthOfMembers members
  | _ => 0
termination_by structural v => v

def depthOfElements : List Json → Nat
  | [] => 0
  | v :: rest => max (v.depth + 1) (depthOfElements rest)
termination_by structural elements => elements

def depthOfMembers : List (String × Json) → Nat
  | [] => 0
  | (_, v) :: rest => max (v.depth + 1) (depthOfMembers rest)
termination_by structural members => members

end

theorem depth_lt_of_mem_elements {elements : List Json} {v : Json} (member : v ∈ elements) :
    v.depth < depthOfElements elements := by
  induction elements with
  | nil => cases member
  | cons head rest ih =>
    rw [depthOfElements]
    rcases List.mem_cons.1 member with rfl | later
    · omega
    · have := ih later
      omega

theorem depth_lt_of_mem_members {members : List (String × Json)} {name : String} {v : Json}
    (member : (name, v) ∈ members) : v.depth < depthOfMembers members := by
  induction members with
  | nil => cases member
  | cons head rest ih =>
    obtain ⟨key, w⟩ := head
    rw [depthOfMembers]
    rcases List.mem_cons.1 member with same | later
    · cases same
      omega
    · have := ih later
      omega

theorem depth_lt_of_mem_places {v w : Json} {step : Step} (place : (step, w) ∈ v.places) :
    w.depth < v.depth := by
  cases v with
  | array elements =>
    obtain ⟨i, found, _⟩ := (mem_places_array ..).1 place
    rw [depth]
    exact depth_lt_of_mem_elements (List.mem_of_getElem? found)
  | object members =>
    obtain ⟨name, member, _⟩ := (mem_places_object ..).1 place
    rw [depth]
    exact depth_lt_of_mem_members member
  | _ => simp [places] at place

theorem placeInduction {P : Json → Prop}
    (step : ∀ v, (∀ step w, (step, w) ∈ v.places → P w) → P v) (v : Json) : P v :=
  step v fun _ w _ => placeInduction step w
termination_by v.depth
decreasing_by exact depth_lt_of_mem_places ‹_›

end Json

end JsonSchema
