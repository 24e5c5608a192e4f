import JsonSchema.Pattern.Regex
import JsonSchema.Pattern.Tree
import JsonSchema.Text.Age
import JsonSchema.Text.Break
import JsonSchema.Text.CaseFold
import JsonSchema.Text.Script

set_option autoImplicit false

namespace JsonSchema.Pattern

open Text (CharSet)

structure Flags where
  ignoreCase : Bool
  multiLine : Bool
  dotAll : Bool
  swapGreed : Bool
  unicode : Bool
  crlf : Bool

namespace Flags

def initial : Flags := ⟨false, false, false, false, true, false⟩

def set (flags : Flags) (setting : FlagSetting) : Flags :=
  setting.foldl
    (fun flags (flag, on) =>
      match flag with
      | .ignoreCase => { flags with ignoreCase := on }
      | .multiLine => { flags with multiLine := on }
      | .dotAll => { flags with dotAll := on }
      | .unicode => { flags with unicode := on }
      | .crlf => { flags with crlf := on }
      | .swapGreed => { flags with swapGreed := on }
      | .verbose => flags)
    flags

end Flags

-- A name with blanks, hyphens, underscores, a leading "is" and case set aside.
def normalName (name : String) : String :=
  let chars := name.toList
  let isPrefixed := chars.length ≥ 2 && (chars.take 2).map Char.toLower = ['i', 's']
  let kept := ((if isPrefixed then chars.drop 2 else chars).filter fun c =>
    c.toNat < 0x80 && c ≠ ' ' && c ≠ '_' && c ≠ '-').map Char.toLower
  if isPrefixed && kept = ['c'] then "isc" else String.ofList kept

-- The characters with a property of a given name: a property of characters, a category or a script.
-- Three short names of categories are names of properties too; they mean the category.
def namedProperty (name : String) : Except Cause CharSet :=
  let norm := normalName name
  let long := if ["cf", "sc", "lc"].contains norm then none else Text.Property.longName? norm
  let found := match long with
    | some long => Text.Property.find? long
    | none => (Text.Category.find? norm).or (Text.Script.find? norm)
  match found with
  | some set => .ok set
  | none =>
    if Text.Category.hasNoTable norm || Text.Script.hasNoTable norm then
      .error .propertyValueNotFound
    else .error .propertyNotFound

def valuedProperty (name value : String) : Except Cause CharSet :=
  match Text.Property.longName? (normalName name) with
  | none => .error .propertyNotFound
  | some long =>
    let value := normalName value
    let found := match long with
      | "age" => Text.Age.find? value
      | "generalcategory" => Text.Category.find? value
      | "graphemeclusterbreak" => Text.Break.find? Text.Break.graphemes value
      | "script" => Text.Script.find? value
      | "scriptextensions" => Text.Script.findUsed? value
      | "sentencebreak" => Text.Break.find? Text.Break.sentences value
      | "wordbreak" => Text.Break.find? Text.Break.words value
      | _ => none
    match found with
    | some set => .ok set
    | none => .error .propertyValueNotFound

namespace Meaning

abbrev Result := Except Error

def failAt {α : Type} (span : Span) (cause : Cause) : Result α := .error ⟨cause, span⟩

def fold (flags : Flags) (set : CharSet) : CharSet :=
  if !flags.ignoreCase then set
  else if flags.unicode then Text.CaseFold.close set
  else
    let shifted (lo hi : Nat) (move : Nat → Nat) : List (Nat × Nat) :=
      ((set.inter (.ofRanges [(lo, hi)])).ranges.toList).map fun (a, b) => (move a, move b)
    .ofRanges (set.ranges.toList ++ shifted 0x41 0x5A (· + 32) ++ shifted 0x61 0x7A (· - 32))

-- The set or its complement, case being set aside first. A pattern about bytes has to stay within
-- ASCII, so that it matches whole characters only.
def foldAndNegate (flags : Flags) (span : Span) (negated : Bool) (set : CharSet) :
    Result CharSet :=
  let folded := fold flags set
  let result := if negated then folded.complement else folded
  if !flags.unicode && !(result.ranges.all fun (_, hi) => hi < 0x80) then
    failAt span .matchesInvalidText
  else .ok result

def shorthand (flags : Flags) (c : ShorthandClass) : Result CharSet :=
  let codes :=
    if flags.unicode then
      match c.kind with
      | .digit => Text.decimalDigits
      | .blank => Text.blankChars
      | .word => Text.wordChars
    else
      match c.kind with
      | .digit => .ofRanges [(0x30, 0x39)]
      | .blank => .ofRanges [(0x09, 0x0D), (0x20, 0x20)]
      | .word => asciiWordChars
  if c.negated then
    if flags.unicode then .ok codes.complement else failAt c.span .matchesInvalidText
  else .ok codes

def property (flags : Flags) (c : PropertyClass) : Result CharSet :=
  if !flags.unicode then failAt c.span .notAllowedInBytes
  else
    let found := match c.query with
      | .named name => namedProperty name
      | .valued name _ value => valuedProperty name value
    let negated := match c.query with
      | .valued _ false _ => !c.negated
      | _ => c.negated
    match found with
    | .error cause => failAt c.span cause
    | .ok set => foldAndNegate flags c.span negated set

def literalChar (flags : Flags) (l : Literal) : Result Char :=
  if !flags.unicode && l.asByte && 0x80 ≤ l.char.toNat then failAt l.span .matchesInvalidText
  else .ok l.char

def classChar (flags : Flags) (l : Literal) : Result Nat := do
  let c ← literalChar flags l
  if !flags.unicode && 0x80 ≤ c.toNat then failAt l.span .notAllowedInBytes
  else return c.toNat

mutual

def classSet (flags : Flags) : ClassSet → Result CharSet
  | .empty _ => .ok .empty
  | .literal l => do
    let code ← classChar flags l
    return .ofRanges [(code, code)]
  | .range _ first last => do
    let lo ← classChar flags first
    let hi ← classChar flags last
    return .ofRanges [(lo, hi)]
  | .ascii span codes negated => foldAndNegate flags span negated codes
  | .shorthand c => shorthand flags c
  | .property c => property flags c
  | .bracketed span negated set => do
    return CharSet.unions [← foldAndNegate flags span negated (← classSet flags set)]
  | .union _ items => do return CharSet.unions (← classItems flags items)
  | .operation _ op left right => do
    let left ← classSet flags left
    let right ← classSet flags right
    let left := fold flags left
    let right := fold flags right
    return CharSet.unions [
      match op with
      | .intersection => left.inter right
      | .difference => left.diff right
      | .symmetricDifference => left.symmDiff right]

def classItems (flags : Flags) : List ClassSet → Result (List CharSet)
  | [] => .ok []
  | item :: rest => do
    let set ← classSet flags item
    return set :: (← classItems flags rest)

end

def look (flags : Flags) : Assertion → Look
  | .lineStart =>
    if !flags.multiLine then .textStart else if flags.crlf then .crlfStart else .lineStart
  | .lineEnd => if !flags.multiLine then .textEnd else if flags.crlf then .crlfEnd else .lineEnd
  | .textStart => .textStart
  | .textEnd => .textEnd
  | .wordBoundary => .wordBoundary !flags.unicode
  | .notWordBoundary => .notWordBoundary !flags.unicode
  | .wordStart => .wordStart !flags.unicode
  | .wordEnd => .wordEnd !flags.unicode
  | .wordStartHalf => .wordStartHalf !flags.unicode
  | .wordEndHalf => .wordEndHalf !flags.unicode

def dot (flags : Flags) (span : Span) : Result CharSet :=
  if !flags.unicode then failAt span .matchesInvalidText
  else if flags.dotAll then .ok .all
  else if flags.crlf then .ok (CharSet.ofChars ['\n', '\r']).complement
  else .ok (CharSet.ofChars ['\n']).complement

mutual

def regex (flags : Flags) : Tree → Result (Regex × Flags)
  | .empty _ => .ok (.empty, flags)
  | .flags _ setting => .ok (.empty, flags.set setting)
  | .literal l => do
    let c ← literalChar flags l
    return (.ofSet (fold flags (.ofChars [c])), flags)
  | .dot span => do return (.ofSet (← dot flags span), flags)
  | .assertion _ a => .ok (.look (look flags a), flags)
  | .shorthand c => do return (.ofSet (← shorthand flags c), flags)
  | .property c => do return (.ofSet (← property flags c), flags)
  | .bracketed span negated set => do
    let codes ← foldAndNegate flags span negated (← classSet flags set)
    return (.ofSet codes, flags)
  | .repetition _ least greatest greedy body => do
    let (r, flags) ← regex flags body
    return (.repetition least greatest (greedy != flags.swapGreed) r, flags)
  | .group _ index setting body => do
    let (r, _) ← regex (flags.set setting) body
    match index with
    | none => return (r, flags)
    | some index => return (.capture index r, flags)
  | .alternation _ branches => do
    let (rs, flags) ← regexes flags branches
    return (Regex.ofBranches rs, flags)
  | .concat _ parts => do
    let (rs, flags) ← regexes flags parts
    return (Regex.ofParts rs, flags)

def regexes (flags : Flags) : List Tree → Result (List Regex × Flags)
  | [] => .ok ([], flags)
  | tree :: rest => do
    let (r, flags) ← regex flags tree
    let (rs, flags) ← regexes flags rest
    return (r :: rs, flags)

end

end Meaning

end JsonSchema.Pattern
