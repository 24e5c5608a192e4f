import JsonSchema.Pattern.Bracket
import JsonSchema.Text.Word

set_option autoImplicit false

namespace JsonSchema.Pattern.Read

/-- The part of a group that has been read: the branches before the latest bar, and the parts behind
it, the latest first. -/
structure Level where
  start : Nat
  branches : List Tree
  branchStart : Nat
  parts : List Tree

namespace Level

def empty (offset : Nat) : Level := ⟨offset, [], offset, []⟩

def push (l : Level) (part : Tree) : Level := { l with parts := part :: l.parts }

def branch (l : Level) (stop : Nat) : Tree :=
  match l.parts with
  | [] => .empty ⟨l.branchStart, stop⟩
  | [part] => part
  | parts => .concat ⟨l.branchStart, stop⟩ parts.reverse

def nextBranch (l : Level) (stop : Nat) : Level :=
  ⟨l.start, l.branch (stop - 1) :: l.branches, stop, []⟩

def toTree (l : Level) (stop : Nat) : Tree :=
  if l.branches.isEmpty then l.branch stop
  else .alternation ⟨l.start, stop⟩ (l.branch stop :: l.branches).reverse

end Level

structure OpenGroup where
  outer : Level
  start : Nat
  index : Option Nat
  setting : FlagSetting
  verbose : Bool

structure ReadState where
  level : Level
  groups : List OpenGroup
  verbose : Bool
  captures : Nat
  names : List (String × Span)

def flag? : Char → Option Flag
  | 'i' => some .ignoreCase
  | 'm' => some .multiLine
  | 's' => some .dotAll
  | 'U' => some .swapGreed
  | 'u' => some .unicode
  | 'R' => some .crlf
  | 'x' => some .verbose
  | _ => none

structure FlagState where
  flags : List (Flag × Bool × Span)
  negation : Option Span
  dangling : Bool

def flags : Read (FlagSetting × Bool) :=
  Scan.loop (fun _ => failHere .flagUnexpectedEnd)
    (fun (s : FlagState) c => do
      let stop ← Scan.offset
      let here : Span := ⟨stop - 1, stop⟩
      if c = ':' || c = ')' then
        match s.dangling, s.negation with
        | true, some sign => Scan.fail ⟨.flagDanglingNegation, sign⟩
        | _, _ => return .inr (s.flags.reverse.map fun (f, on, _) => (f, on), c = ':')
      else if c = '-' then
        match s.negation with
        | some first => Scan.fail ⟨.flagRepeatedNegation first, here⟩
        | none => return .inl { s with negation := some here, dangling := true }
      else
        match flag? c with
        | none => Scan.fail ⟨.flagUnrecognized, here⟩
        | some f =>
          match s.flags.find? fun (g, _) => g = f with
          | some (_, _, first) => Scan.fail ⟨.flagDuplicate first, here⟩
          | none =>
            return .inl ⟨(f, s.negation.isNone, here) :: s.flags, s.negation, false⟩)
    ⟨[], none, false⟩

def isNameStart (c : Char) : Bool := c = '_' || Text.nameLetters.contains c

def isNamePart (c : Char) : Bool :=
  c = '_' || c = '.' || c = '[' || c = ']' || Text.nameChars.contains c

def groupName (names : List (String × Span)) : Read (String × Span) := do
  let start ← Scan.offset
  let first ← Scan.peek?
  if first.any fun c => c ≠ '>' && !isNameStart c then failNext .groupNameInvalid
  let name ← Scan.takeWhile fun c => c ≠ '>' && isNamePart c
  let span ← spanFrom start
  match ← Scan.peek? with
  | none => failHere .groupNameUnexpectedEnd
  | some c =>
    if c ≠ '>' then failNext .groupNameInvalid
    Scan.skip
    if name.isEmpty then Scan.fail ⟨.groupNameEmpty, span⟩
    let text := String.ofList name
    match names.lookup text with
    | some earlier => Scan.fail ⟨.groupNameDuplicate earlier, span⟩
    | none => return (text, span)

def verboseAfter (setting : FlagSetting) (verbose : Bool) : Bool :=
  (setting.lookup .verbose).getD verbose

def openGroup (s : ReadState) (start : Nat) : Read ReadState := do
  space s.verbose
  let inner ← Scan.offset
  let opened (capturing : Bool) (setting : FlagSetting) (names : List (String × Span)) :
      Read ReadState := do
    let captures := if capturing then s.captures + 1 else s.captures
    let index := if capturing then some captures else none
    let group : OpenGroup := ⟨s.level, start, index, setting, s.verbose⟩
    let verbose := verboseAfter setting s.verbose
    return ⟨.empty (← Scan.offset), group :: s.groups, verbose, captures, names⟩
  if !(← Scan.skipIf '?') then opened true [] s.names
  else
    match (← Scan.rest).take 2 with
    | '=' :: _ | '!' :: _ => failAt .lookAround start (inner + 2)
    | '<' :: '=' :: _ | '<' :: '!' :: _ => failAt .lookAround start (inner + 3)
    | 'P' :: '<' :: _ =>
      Scan.skip
      Scan.skip
      let name ← groupName s.names
      opened true [] (name :: s.names)
    | '<' :: _ =>
      Scan.skip
      let name ← groupName s.names
      opened true [] (name :: s.names)
    | [] => failAt .groupUnclosed start (start + 1)
    | _ =>
      let (setting, colon) ← flags
      if colon then opened false setting s.names
      else if setting.isEmpty then failAt .repetitionMissing inner inner
      else
        let part : Tree := .flags (← spanFrom start) setting
        return { s with
          level := s.level.push part
          verbose := verboseAfter setting s.verbose }

def closeGroup (s : ReadState) : Read ReadState := do
  let stop ← Scan.offset
  match s.groups with
  | [] => failAt .groupUnopened (stop - 1) stop
  | group :: groups =>
    let tree : Tree :=
      .group ⟨group.start, stop⟩ group.index group.setting (s.level.toTree (stop - 1))
    return { s with level := group.outer.push tree, groups, verbose := group.verbose }

def repeated (level : Level) (start : Nat) : Read (Tree × Level) :=
  match level.parts with
  | [] => failAt .repetitionMissing start start
  | .empty _ :: _ => failAt .repetitionMissing start start
  | .flags _ _ :: _ => failAt .repetitionMissing start start
  | part :: parts => return (part, { level with parts })

def repeatLast (s : ReadState) (start least : Nat) (greatest : Option Nat) : Read ReadState := do
  let (part, level) ← repeated s.level start
  let greedy := !(← Scan.skipIf '?')
  let span : Span := ⟨part.span.start, ← Scan.offset⟩
  return { s with level := level.push (.repetition span least greatest greedy part) }

def decimalValue (digits : List Char) : Nat :=
  digits.foldl (fun n c => n * 10 + (c.toNat - '0'.toNat)) 0

def decimal (verbose : Bool) : Read (Except Error Nat) := do
  let _ ← Scan.takeWhile Text.isBlank
  let start ← Scan.offset
  let digits ← Scan.takeEach Char.isDigit fun _ => space verbose
  let span ← spanFrom start
  let _ ← Scan.takeEach Text.isBlank fun _ => space verbose
  if digits.isEmpty then return .error ⟨.countDecimalEmpty, span⟩
  else if decimalValue digits < UInt32.size then return .ok (decimalValue digits)
  else return .error ⟨.decimalInvalid, span⟩

def orFail {α : Type} : Except Error α → Read α
  | .ok a => return a
  | .error e => Scan.fail e

def countedRepetition (s : ReadState) (start : Nat) : Read ReadState := do
  let _ ← repeated s.level start
  let unclosed : Read Unit := do
    if ← atEnd then failFrom .countUnclosed start
  space s.verbose
  unclosed
  let first ← decimal s.verbose
  unclosed
  let (least, greatest) ← do
    if ← Scan.skipIf ',' then
      space s.verbose
      unclosed
      if (← Scan.peek?) = some '\x7d' then pure (← orFail first, none)
      else
        let least ← orFail first
        let greatest ← orFail (← decimal s.verbose)
        pure (least, some greatest)
    else
      let count ← orFail first
      pure (count, some count)
  if !(← Scan.skipIf '\x7d') then failFrom .countUnclosed start
  space s.verbose
  let result ← repeatLast s start least greatest
  if greatest.any (· < least) then failFrom .countRangeInvalid start
  return result

def step (s : ReadState) (c : Char) : Read (ReadState ⊕ Tree) := do
  let here ← Scan.offset
  let start := here - 1
  let span : Span := ⟨start, here⟩
  let add (part : Tree) : ReadState := { s with level := s.level.push part }
  if s.verbose && Text.isBlank c then return .inl s
  else if s.verbose && c = '#' then
    comment
    return .inl s
  else
    match c with
    | '(' => return .inl (← openGroup s start)
    | ')' => return .inl (← closeGroup s)
    | '|' => return .inl { s with level := s.level.nextBranch here }
    | '[' => return .inl (add (← bracketed s.verbose start))
    | '?' => return .inl (← repeatLast s start 0 (some 1))
    | '*' => return .inl (← repeatLast s start 0 none)
    | '+' => return .inl (← repeatLast s start 1 none)
    | '\x7b' => return .inl (← countedRepetition s start)
    | '\\' => return .inl (add (← escape s.verbose start))
    | '.' => return .inl (add (.dot span))
    | '^' => return .inl (add (.assertion span .lineStart))
    | '$' => return .inl (add (.assertion span .lineEnd))
    | c => return .inl (add (.literal ⟨span, c, false⟩))

def finish (s : ReadState) : Read Tree := do
  match s.groups with
  | [] => return s.level.toTree (← Scan.offset)
  | group :: _ => failAt .groupUnclosed group.start (group.start + 1)

def nestingLimit : Nat := 250

def tree : Read Tree := do
  let tree ← Scan.loop finish step ⟨.empty 0, [], false, 0, []⟩
  match tree.tooDeep? nestingLimit with
  | none => return tree
  | some span => Scan.fail ⟨.nestedTooDeep nestingLimit, span⟩

end JsonSchema.Pattern.Read
