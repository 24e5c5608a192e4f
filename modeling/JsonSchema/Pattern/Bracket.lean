import JsonSchema.Pattern.Escape

set_option autoImplicit false

namespace JsonSchema.Pattern

structure ClassItems where
  span : Span
  items : List ClassSet

namespace ClassItems

def none (offset : Nat) : ClassItems := ⟨⟨offset, offset⟩, []⟩

def push (u : ClassItems) (item : ClassSet) : ClassItems :=
  ⟨⟨if u.items.isEmpty then item.span.start else u.span.start, item.span.stop⟩, item :: u.items⟩

def toSet (u : ClassItems) : ClassSet :=
  match u.items with
  | [] => .empty u.span
  | [item] => item
  | items => .union u.span items.reverse

end ClassItems

inductive ClassFrame where
  | opened (outer : ClassItems) (span : Span) (negated : Bool)
  | operation (op : SetOperation) (left : ClassSet)

namespace Read

structure ClassState where
  items : ClassItems
  frames : List ClassFrame

def openSpan : List ClassFrame → Span
  | [] => ⟨0, 0⟩
  | .opened _ span _ :: _ => span
  | .operation .. :: rest => openSpan rest

def failUnclosed {α : Type} (frames : List ClassFrame) : Read α :=
  Scan.fail ⟨.classUnclosed, openSpan frames⟩

def leadingHyphens (verbose : Bool) (items : ClassItems) : Read ClassItems := do
  let hyphens ← Scan.many (· = '-') fun c => do
    let stop ← Scan.offset
    space verbose
    return .literal ⟨⟨stop - 1, stop⟩, c, false⟩
  return hyphens.foldl .push items

def openClass (verbose : Bool) (start : Nat) : Read (ClassItems × Span × Bool) := do
  space verbose
  if ← atEnd then failFrom .classUnclosed start
  let negated ← Scan.skipIf '^'
  if negated then
    space verbose
    if ← atEnd then failFrom .classUnclosed start
  let items ← leadingHyphens verbose (.none (← Scan.offset))
  if ← atEnd then failAt .classUnclosed start start
  let bracketFirst ← if items.items.isEmpty then Scan.skipIf ']' else pure false
  if bracketFirst then
    let stop ← Scan.offset
    space verbose
    if ← atEnd then failFrom .classUnclosed start
    return (items.push (.literal ⟨⟨stop - 1, stop⟩, ']', false⟩), ← spanFrom start, negated)
  else return (items, ← spanFrom start, negated)

def asciiClasses : List (String × List (Nat × Nat)) := [
  ("alnum", [(0x30, 0x39), (0x41, 0x5A), (0x61, 0x7A)]),
  ("alpha", [(0x41, 0x5A), (0x61, 0x7A)]),
  ("ascii", [(0x00, 0x7F)]),
  ("blank", [(0x09, 0x09), (0x20, 0x20)]),
  ("cntrl", [(0x00, 0x1F), (0x7F, 0x7F)]),
  ("digit", [(0x30, 0x39)]),
  ("graph", [(0x21, 0x7E)]),
  ("lower", [(0x61, 0x7A)]),
  ("print", [(0x20, 0x7E)]),
  ("punct", [(0x21, 0x2F), (0x3A, 0x40), (0x5B, 0x60), (0x7B, 0x7E)]),
  ("space", [(0x09, 0x0D), (0x20, 0x20)]),
  ("upper", [(0x41, 0x5A)]),
  ("word", [(0x30, 0x39), (0x41, 0x5A), (0x5F, 0x5F), (0x61, 0x7A)]),
  ("xdigit", [(0x30, 0x39), (0x41, 0x46), (0x61, 0x66)])]

-- A named class such as `[:alpha:]`, behind its bracket. Where the text is no such class, the
-- bracket opens an ordinary one and nothing is taken.
def asciiClass? (start : Nat) : Read (Option ClassSet) := Scan.attempt do
  if !(← Scan.skipIf ':') then return none
  let negated ← Scan.skipIf '^'
  let name ← Scan.takeWhile (· ≠ ':')
  if !(← Scan.skipWord ":]") then return none
  match asciiClasses.lookup (String.ofList name) with
  | none => return none
  | some ranges => return some (.ascii (← spanFrom start) (.ofRanges ranges) negated)

def classAtom (verbose : Bool) (start : Nat) (first : Char) : Read Tree := do
  if first = '\\' then escape verbose start
  else return .literal ⟨⟨start, start + 1⟩, first, false⟩

def classItem (atom : Tree) : Read ClassSet :=
  match atom with
  | .literal l => return .literal l
  | .shorthand c => return .shorthand c
  | .property c => return .property c
  | other => Scan.fail ⟨.classEscapeInvalid, other.span⟩

def rangeEnd (atom : Tree) : Read Literal :=
  match atom with
  | .literal l => return l
  | other => Scan.fail ⟨.classRangeLiteral, other.span⟩

-- A single item or a range, whose first character has been taken. A hyphen before the closing
-- bracket or before another hyphen is no range.
def rangeOrItem (verbose : Bool) (frames : List ClassFrame) (start : Nat) (first : Char) :
    Read ClassSet := do
  let low ← classAtom verbose start first
  space verbose
  if ← atEnd then failUnclosed frames
  let behind ← peekBehindNext? verbose
  if (← Scan.peek?) ≠ some '-' || behind = some ']' || behind = some '-' then classItem low
  else
    Scan.skip
    space verbose
    let secondStart ← Scan.offset
    match ← Scan.next? with
    | none => failUnclosed frames
    | some second =>
      let high ← classAtom verbose secondStart second
      let low ← rangeEnd low
      let high ← rangeEnd high
      let span : Span := ⟨low.span.start, high.span.stop⟩
      if high.char < low.char then Scan.fail ⟨.classRangeInvalid, span⟩
      return .range span low high

def joinLeft (right : ClassSet) : List ClassFrame → ClassSet × List ClassFrame
  | .operation op left :: rest =>
    (.operation ⟨left.span.start, right.span.stop⟩ op left right, rest)
  | frames => (right, frames)

def pushOperation (op : SetOperation) (s : ClassState) : Read ClassState := do
  let (left, frames) := joinLeft s.items.toSet s.frames
  return ⟨.none (← Scan.offset), .operation op left :: frames⟩

def classStep (verbose : Bool) (s : ClassState) (c : Char) : Read (ClassState ⊕ Tree) := do
  let here ← Scan.offset
  let start := here - 1
  if verbose && Text.isBlank c then return .inl s
  else if verbose && c = '#' then
    comment
    return .inl s
  else if c = '[' then
    match ← asciiClass? start with
    | some item => return .inl { s with items := s.items.push item }
    | none =>
      let (items, span, negated) ← openClass verbose start
      return .inl ⟨items, .opened s.items span negated :: s.frames⟩
  else if c = ']' then
    match joinLeft s.items.toSet s.frames with
    | (set, .opened outer span negated :: frames) =>
      let span : Span := ⟨span.start, here⟩
      if frames.isEmpty then return .inr (.bracketed span negated set)
      else return .inl ⟨outer.push (.bracketed span negated set), frames⟩
    | _ => failUnclosed s.frames
  else if c = '&' && (← Scan.peek?) = some '&' then
    Scan.skip
    return .inl (← pushOperation .intersection s)
  else if c = '-' && (← Scan.peek?) = some '-' then
    Scan.skip
    return .inl (← pushOperation .difference s)
  else if c = '~' && (← Scan.peek?) = some '~' then
    Scan.skip
    return .inl (← pushOperation .symmetricDifference s)
  else
    let item ← rangeOrItem verbose s.frames start c
    return .inl { s with items := s.items.push item }

def bracketed (verbose : Bool) (start : Nat) : Read Tree := do
  let (items, span, negated) ← openClass verbose start
  Scan.loop (fun s => failUnclosed s.frames) (classStep verbose)
    ⟨items, [.opened (.none start) span negated]⟩

end Read

end JsonSchema.Pattern
