set_option autoImplicit false

namespace JsonSchema.Pattern

structure Span where
  start : Nat
  stop : Nat
deriving DecidableEq

inductive Cause where
  | classEscapeInvalid
  | classRangeInvalid
  | classRangeLiteral
  | classUnclosed
  | decimalInvalid
  | hexEmpty
  | hexInvalid
  | hexInvalidDigit
  | escapeUnexpectedEnd
  | escapeUnrecognized
  | flagDanglingNegation
  | flagDuplicate (first : Span)
  | flagRepeatedNegation (first : Span)
  | flagUnexpectedEnd
  | flagUnrecognized
  | groupNameDuplicate (first : Span)
  | groupNameEmpty
  | groupNameInvalid
  | groupNameUnexpectedEnd
  | groupUnclosed
  | groupUnopened
  | nestedTooDeep (limit : Nat)
  | countRangeInvalid
  | countDecimalEmpty
  | countUnclosed
  | repetitionMissing
  | wordBoundaryUnclosed
  | wordBoundaryUnrecognized
  | wordBoundaryUnexpectedEnd
  | propertySyntaxInvalid
  | backreference
  | lookAround
  | notAllowedInBytes
  | matchesInvalidText
  | propertyNotFound
  | propertyValueNotFound
deriving DecidableEq

namespace Cause

def message : Cause → String
  | classEscapeInvalid => "invalid escape sequence found in character class"
  | classRangeInvalid => "invalid character class range, the start must be <= the end"
  | classRangeLiteral => "invalid range boundary, must be a literal"
  | classUnclosed => "unclosed character class"
  | decimalInvalid => "decimal literal invalid"
  | hexEmpty => "hexadecimal literal empty"
  | hexInvalid => "hexadecimal literal is not a Unicode scalar value"
  | hexInvalidDigit => "invalid hexadecimal digit"
  | escapeUnexpectedEnd => "incomplete escape sequence, reached end of pattern prematurely"
  | escapeUnrecognized => "unrecognized escape sequence"
  | flagDanglingNegation => "dangling flag negation operator"
  | flagDuplicate _ => "duplicate flag"
  | flagRepeatedNegation _ => "flag negation operator repeated"
  | flagUnexpectedEnd => "expected flag but got end of regex"
  | flagUnrecognized => "unrecognized flag"
  | groupNameDuplicate _ => "duplicate capture group name"
  | groupNameEmpty => "empty capture group name"
  | groupNameInvalid => "invalid capture group character"
  | groupNameUnexpectedEnd => "unclosed capture group name"
  | groupUnclosed => "unclosed group"
  | groupUnopened => "unopened group"
  | nestedTooDeep limit =>
    "exceed the maximum number of nested parentheses/brackets (" ++ toString limit ++ ")"
  | countRangeInvalid => "invalid repetition count range, the start must be <= the end"
  | countDecimalEmpty => "repetition quantifier expects a valid decimal"
  | countUnclosed => "unclosed counted repetition"
  | repetitionMissing => "repetition operator missing expression"
  | wordBoundaryUnclosed =>
    "special word boundary assertion is either unclosed or contains an invalid character"
  | wordBoundaryUnrecognized =>
    "unrecognized special word boundary assertion, valid choices are: "
      ++ "start, end, start-half or end-half"
  | wordBoundaryUnexpectedEnd =>
    "found either the beginning of a special word boundary or a bounded repetition on a \\b "
      ++ "with an opening brace, but no closing brace"
  | propertySyntaxInvalid => "invalid Unicode character class"
  | backreference => "backreferences are not supported"
  | lookAround => "look-around, including look-ahead and look-behind, is not supported"
  | notAllowedInBytes => "Unicode not allowed here"
  | matchesInvalidText => "pattern can match invalid UTF-8"
  | propertyNotFound => "Unicode property not found"
  | propertyValueNotFound => "Unicode property value not found"

def related? : Cause → Option Span
  | flagDuplicate first => some first
  | flagRepeatedNegation first => some first
  | groupNameDuplicate first => some first
  | _ => none

end Cause

structure Error where
  cause : Cause
  span : Span
deriving DecidableEq

structure Place where
  line : Nat
  column : Nat
deriving DecidableEq

def Place.ofOffset (text : List Char) (offset : Nat) : Place :=
  (text.take offset).foldl
    (fun p c => if c = '\n' then ⟨p.line + 1, 0⟩ else ⟨p.line, p.column + 1⟩) ⟨0, 0⟩

-- The lines of a text. A line break at its end begins no further line, and the break may have a
-- carriage return in front.
def linesOf (text : String) : List String :=
  let lines := text.splitOn "\n"
  let closed := lines.dropLast.map fun line =>
    if line.toList.getLast? = some '\r' then String.ofList line.toList.dropLast else line
  match lines.getLast? with
  | some "" => closed
  | some last => closed ++ [last]
  | none => closed

def blanks (n : Nat) : String := String.ofList (List.replicate n ' ')

def carets (columns : List (Nat × Nat)) : String :=
  columns.foldl
    (fun marks (first, last) =>
      marks ++ blanks (first - marks.length)
        ++ String.ofList (List.replicate (max 1 (last - first)) '^'))
    ""

def padLeft (width : Nat) (text : String) : String := blanks (width - text.length) ++ text

namespace Error

def spans (e : Error) : List Span :=
  match e.cause.related? with
  | none => [e.span]
  | some first =>
    if first.start < e.span.start ∨ (first.start = e.span.start ∧ first.stop ≤ e.span.stop) then
      [first, e.span]
    else [e.span, first]

def reason (pattern : String) (e : Error) : String :=
  let chars := pattern.toList
  let places := e.spans.map fun s => (Place.ofOffset chars s.start, Place.ofOffset chars s.stop)
  let long := chars.contains '\n'
  let lines := linesOf pattern
  let lineCount := lines.length + (if chars.getLast? = some '\n' then 1 else 0)
  let width := if lineCount ≤ 1 then 0 else (toString lineCount).length
  let margin := if width = 0 then 4 else width + 2
  let notated := lines.zipIdx.map fun (line, i) =>
    let label := if width = 0 then blanks 4 else padLeft width (toString (i + 1)) ++ ": "
    let columns := places.filterMap fun (first, last) =>
      if first.line = i ∧ last.line = i then some (first.column, last.column) else none
    label ++ line ++ "\n"
      ++ (if columns.isEmpty then "" else blanks margin ++ carets columns ++ "\n")
  let body := String.join notated
  if long then
    let rule := String.ofList (List.replicate 79 '~') ++ "\n"
    let notes := (places.filter fun (first, last) => first.line ≠ last.line).map
      fun (first, last) =>
        "on line " ++ toString (first.line + 1) ++ " (column " ++ toString (first.column + 1)
          ++ ") through line " ++ toString (last.line + 1) ++ " (column " ++ toString last.column
          ++ ")\n"
    "regex parse error:\n" ++ rule ++ body ++ rule ++ String.join notes
      ++ "error: " ++ e.cause.message
  else "regex parse error:\n" ++ body ++ "error: " ++ e.cause.message

end Error

end JsonSchema.Pattern
