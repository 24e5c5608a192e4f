import JsonSchema.Pointer
import JsonSchema.Failure

set_option autoImplicit false

namespace JsonSchema

inductive DiagnosticKind where
  | noSchema
  | schemaDefect
  | typeMismatch
  | enumMismatch
  | keyword
  | tooDeep
deriving DecidableEq

structure Diagnostic where
  kind : DiagnosticKind
  pointer : Pointer
  message : String
deriving DecidableEq

def Diagnostic.write (d : Diagnostic) : String := d.pointer.write ++ ": " ++ d.message

structure Report where
  diagnostics : List Diagnostic
deriving DecidableEq

namespace Report

def empty : Report := ⟨[]⟩

def passed (r : Report) : Bool := r.diagnostics.isEmpty

def messages (r : Report) : List String := r.diagnostics.map Diagnostic.write

def write (r : Report) : String := "\n".intercalate r.messages

def toExcept (r : Report) : Except Failure Unit :=
  if r.passed then .ok () else .error (.validation r.messages)

theorem passed_iff (r : Report) : r.passed = true ↔ r.diagnostics = [] := by
  simp [passed]

end Report

end JsonSchema
