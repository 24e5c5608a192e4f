import JsonSchema.Pattern.Tree
import JsonSchema.Text.Blank
import JsonSchema.Text.Scan

set_option autoImplicit false

namespace JsonSchema.Pattern

abbrev Read := Scan Error

namespace Read

def failAt {α : Type} (cause : Cause) (start stop : Nat) : Read α := Scan.fail ⟨cause, ⟨start, stop⟩⟩

def failHere {α : Type} (cause : Cause) : Read α := do
  let here ← Scan.offset
  failAt cause here here

def failNext {α : Type} (cause : Cause) : Read α := do
  let here ← Scan.offset
  failAt cause here (here + 1)

def failFrom {α : Type} (cause : Cause) (start : Nat) : Read α := do
  failAt cause start (← Scan.offset)

def spanFrom (start : Nat) : Read Span := do return ⟨start, ← Scan.offset⟩

def atEnd : Read Bool := do return (← Scan.peek?).isNone

def comment : Read Unit := do
  let _ ← Scan.takeWhile (· ≠ '\n')
  Scan.skip

def space (verbose : Bool) : Read Unit := do
  if verbose then
    let _ ← Scan.takeEach (fun c => Text.isBlank c || c = '#')
      fun c => if c = '#' then comment else pure ()
  else pure ()

-- The character behind blanks and the next one, as a range looks for its end: of a comment only the
-- hash sign is skipped.
def peekBehindNext? (verbose : Bool) : Read (Option Char) := do
  let behind := (← Scan.rest).drop 1
  if verbose then
    let text := behind.dropWhile Text.isBlank
    let text := if text.head? = some '#' then (text.drop 1).dropWhile Text.isBlank else text
    return text.head?.or behind.head?
  else return behind.head?

def isHexDigit (c : Char) : Bool :=
  ('0' ≤ c && c ≤ '9') || ('a' ≤ c && c ≤ 'f') || ('A' ≤ c && c ≤ 'F')

def hexValue (digits : List Char) : Nat :=
  digits.foldl
    (fun n c => n * 16 +
      (if c ≤ '9' then c.toNat - '0'.toNat
        else if 'a' ≤ c then c.toNat - 'a'.toNat + 10
        else c.toNat - 'A'.toNat + 10)) 0

def charOf? (code : Nat) : Option Char :=
  if code.isValidChar then some (Char.ofNat code) else none

def hexDigits (verbose : Bool) : Nat → Read (List Char)
  | 0 => return []
  | count + 1 => do
    match ← Scan.peek? with
    | none => failHere .escapeUnexpectedEnd
    | some c =>
      if !isHexDigit c then failNext .hexInvalidDigit
      Scan.skip
      space verbose
      return c :: (← hexDigits verbose count)

def untilBrace (verbose : Bool) (unclosed : Read Unit) (allowed : Char → Bool) :
    Read (List Char × Nat) :=
  Scan.loop
    (fun taken => do
      unclosed
      return (taken.reverse, ← Scan.offset))
    (fun (taken : List Char) c => do
      let here ← Scan.offset
      if verbose && Text.isBlank c then return .inl taken
      else if verbose && c = '#' then
        comment
        return .inl taken
      else if c = '\x7d' then return .inr (taken.reverse, here - 1)
      else if !allowed c then failAt .hexInvalidDigit (here - 1) here
      else return .inl (c :: taken))
    []

def hex (verbose : Bool) (start count : Nat) : Read Literal := do
  space verbose
  match ← Scan.peek? with
  | none => failHere .escapeUnexpectedEnd
  | some '\x7b' =>
    let brace ← Scan.offset
    Scan.skip
    let (digits, stop) ← untilBrace verbose (failFrom .escapeUnexpectedEnd brace) isHexDigit
    space verbose
    if digits.isEmpty then failFrom .hexEmpty brace
    match charOf? (hexValue digits) with
    | some char => return ⟨← spanFrom start, char, false⟩
    | none => failAt .hexInvalid (brace + 1) stop
  | some _ =>
    let first ← Scan.offset
    let digits ← hexDigits verbose count
    match charOf? (hexValue digits) with
    | some char => return ⟨← spanFrom start, char, count = 2⟩
    | none => failFrom .hexInvalid first

def splitAt? (mark : List Char) : List Char → Option (List Char × List Char)
  | [] => none
  | c :: rest =>
    if mark.isPrefixOf (c :: rest) then some ([], (c :: rest).drop mark.length)
    else (splitAt? mark rest).map fun (before, after) => (c :: before, after)

def propertyQuery (text : List Char) : PropertyQuery :=
  match splitAt? ['!', '='] text, (splitAt? [':'] text).or (splitAt? ['='] text) with
  | some (name, value), _ => .valued (String.ofList name) false (String.ofList value)
  | none, some (name, value) => .valued (String.ofList name) true (String.ofList value)
  | none, none => .named (String.ofList text)

def property (verbose : Bool) (start : Nat) (negated : Bool) : Read PropertyClass := do
  space verbose
  match ← Scan.peek? with
  | none => failHere .escapeUnexpectedEnd
  | some '\x7b' =>
    Scan.skip
    let (name, _) ← untilBrace verbose (failHere .escapeUnexpectedEnd) fun _ => true
    return ⟨← spanFrom start, propertyQuery name, negated⟩
  | some '\\' => failNext .propertySyntaxInvalid
  | some c =>
    Scan.skip
    space verbose
    return ⟨← spanFrom start, .named c.toString, negated⟩

def isBoundaryLetter (c : Char) : Bool :=
  ('a' ≤ c && c ≤ 'z') || ('A' ≤ c && c ≤ 'Z') || c = '-'

-- The name of a word boundary in braces. Where the brace holds something else, it belongs to a
-- repetition and stays.
def boundaryName? (verbose : Bool) (start : Nat) : Read (Option Assertion) := Scan.attempt do
  let brace ← Scan.offset
  if !(← Scan.skipIf '\x7b') then return none
  space verbose
  match ← Scan.peek? with
  | none => failFrom .wordBoundaryUnexpectedEnd start
  | some c =>
    if !isBoundaryLetter c then return none
    let first ← Scan.offset
    let name ← Scan.takeEach isBoundaryLetter fun _ => space verbose
    let stop ← Scan.offset
    if !(← Scan.skipIf '\x7d') then failFrom .wordBoundaryUnclosed brace
    match String.ofList name with
    | "start" => return some .wordStart
    | "end" => return some .wordEnd
    | "start-half" => return some .wordStartHalf
    | "end-half" => return some .wordEndHalf
    | _ => failAt .wordBoundaryUnrecognized first stop

def isEscapable (c : Char) : Bool :=
  c.toNat < 0x80 && !c.isAlphanum && c ≠ '<' && c ≠ '>'

def control? : Char → Option Char
  | 'a' => some '\x07'
  | 'f' => some '\x0c'
  | 'n' => some '\n'
  | 'r' => some '\r'
  | 't' => some '\t'
  | 'v' => some '\x0b'
  | _ => none

def assertion? : Char → Option Assertion
  | 'A' => some .textStart
  | 'z' => some .textEnd
  | 'b' => some .wordBoundary
  | 'B' => some .notWordBoundary
  | '<' => some .wordStart
  | '>' => some .wordEnd
  | _ => none

def shorthand? : Char → Option (Shorthand × Bool)
  | 'd' => some (.digit, false)
  | 's' => some (.blank, false)
  | 'w' => some (.word, false)
  | 'D' => some (.digit, true)
  | 'S' => some (.blank, true)
  | 'W' => some (.word, true)
  | _ => none

def escape (verbose : Bool) (start : Nat) : Read Tree := do
  match ← Scan.next? with
  | none => failFrom .escapeUnexpectedEnd start
  | some c =>
    let span ← spanFrom start
    if c.isDigit then failFrom .backreference start
    else if c = 'x' then return .literal (← hex verbose start 2)
    else if c = 'u' then return .literal (← hex verbose start 4)
    else if c = 'U' then return .literal (← hex verbose start 8)
    else if c = 'p' || c = 'P' then return .property (← property verbose start (c = 'P'))
    else if isEscapable c then return .literal ⟨span, c, false⟩
    else
      match shorthand? c, control? c, assertion? c with
      | some (kind, negated), _, _ => return .shorthand ⟨span, kind, negated⟩
      | none, some char, _ => return .literal ⟨span, char, false⟩
      | none, none, some .wordBoundary =>
        match ← boundaryName? verbose start with
        | some assertion => return .assertion (← spanFrom start) assertion
        | none => return .assertion span .wordBoundary
      | none, none, some assertion => return .assertion span assertion
      | none, none, none => failFrom .escapeUnrecognized start

end Read

end JsonSchema.Pattern
