import JsonSchema.Json.Basic
import JsonSchema.SchemaError

set_option autoImplicit false

namespace JsonSchema

/-- A kind of values, in the order in which kinds are listed. Whole numbers are a kind of their own;
that they are numbers too is for `TypeSet.admits` to say. -/
inductive Kind where
  | array
  | boolean
  | integer
  | null
  | number
  | object
  | string
deriving DecidableEq

namespace Kind

def all : List Kind := [array, boolean, integer, null, number, object, string]

theorem mem_all (k : Kind) : k ∈ all := by cases k <;> decide

def name : Kind → String
  | array => "array"
  | boolean => "boolean"
  | integer => "integer"
  | null => "null"
  | number => "number"
  | object => "object"
  | string => "string"

def ofName? (text : String) : Option Kind := all.find? fun k => k.name = text

@[simp] theorem ofName?_name (k : Kind) : ofName? k.name = some k := by cases k <;> decide

theorem name_of_ofName? {text : String} {k : Kind} (h : ofName? text = some k) : k.name = text := by
  simpa using List.find?_some h

theorem name_injective {j k : Kind} (h : j.name = k.name) : j = k := by
  have := ofName?_name j
  rw [h, ofName?_name] at this
  exact (Option.some.inj this).symm

def parse (text : String) : Except SchemaError Kind :=
  match ofName? text with
  | some k => .ok k
  | none => .error (.unknownType text)

def index : Kind → Fin 7
  | array => 0
  | boolean => 1
  | integer => 2
  | null => 3
  | number => 4
  | object => 5
  | string => 6

theorem index_injective {j k : Kind} (h : j.index = k.index) : j = k := by
  cases j <;> cases k <;> first | rfl | simp [index] at h

theorem exists_index_eq (i : Fin 7) : ∃ k : Kind, k.index = i :=
  ⟨all.get i, by decide +revert⟩

def of : Json → Kind
  | .null => .null
  | .bool _ => .boolean
  | .number n => if n.isIntegral then .integer else .number
  | .string _ => .string
  | .array _ => .array
  | .object _ => .object

end Kind

inductive TypeName where
  | any
  | kind (kind : Kind)
deriving DecidableEq

namespace TypeName

def name : TypeName → String
  | any => "any"
  | kind k => k.name

def parse (text : String) : Except SchemaError TypeName :=
  if text = "any" then .ok any else (Kind.parse text).map kind

@[simp] theorem parse_name (n : TypeName) : parse n.name = .ok n := by
  cases n with
  | any => rfl
  | kind k => cases k <;> rfl

end TypeName

end JsonSchema
