import JsonSchema.Number.Basic

set_option autoImplicit false

namespace JsonSchema

inductive Json where
  | null
  | bool (value : Bool)
  | number (value : Number)
  | string (value : String)
  | array (elements : List Json)
  | object (members : List (String × Json))

instance : Inhabited Json := ⟨.null⟩

namespace Json

def insertMember {α : Type} (key : String) (value : α) : List (String × α) → List (String × α)
  | [] => [(key, value)]
  | (k, v) :: rest =>
    if key < k then (key, value) :: (k, v) :: rest
    else if key = k then (key, value) :: rest
    else (k, v) :: insertMember key value rest

def ofMembers (members : List (String × Json)) : Json :=
  .object (members.foldl (fun sorted (key, value) => insertMember key value sorted) [])

theorem lookup_insertMember_self {α : Type} (key : String) (value : α)
    (members : List (String × α)) :
    (insertMember key value members).lookup key = some value := by
  induction members with
  | nil => simp [insertMember]
  | cons head rest ih =>
    obtain ⟨k, v⟩ := head
    simp only [insertMember]
    split
    · simp
    · split
      · simp
      · next h =>
        have h' : (key == k) = false := by simpa using h
        simpa [List.lookup_cons, h'] using ih

theorem lookup_insertMember_of_ne {α : Type} {key other : String} (value : α)
    (members : List (String × α)) (h : other ≠ key) :
    (insertMember key value members).lookup other = members.lookup other := by
  have h' : (other == key) = false := by simpa using h
  induction members with
  | nil => simp [insertMember, List.lookup_cons, h']
  | cons head rest ih =>
    obtain ⟨k, v⟩ := head
    simp only [insertMember]
    split
    · simp [List.lookup_cons, h']
    · split
      · next hk => subst hk; simp [List.lookup_cons, h']
      · simp only [List.lookup_cons, ih]

end Json

end JsonSchema
