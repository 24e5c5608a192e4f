import JsonSchema.Pattern.Error
import JsonSchema.Text.CharSet

set_option autoImplicit false

namespace JsonSchema.Pattern

open Text (CharSet)

structure Literal where
  span : Span
  char : Char
  asByte : Bool

inductive Shorthand where
  | digit
  | blank
  | word

structure ShorthandClass where
  span : Span
  kind : Shorthand
  negated : Bool

inductive PropertyQuery where
  | named (name : String)
  | valued (name : String) (equal : Bool) (value : String)

structure PropertyClass where
  span : Span
  query : PropertyQuery
  negated : Bool

inductive SetOperation where
  | intersection
  | difference
  | symmetricDifference

inductive ClassSet where
  | empty (span : Span)
  | literal (literal : Literal)
  | range (span : Span) (first last : Literal)
  | ascii (span : Span) (codes : CharSet) (negated : Bool)
  | shorthand (cls : ShorthandClass)
  | property (cls : PropertyClass)
  | bracketed (span : Span) (negated : Bool) (set : ClassSet)
  | union (span : Span) (items : List ClassSet)
  | operation (span : Span) (op : SetOperation) (left right : ClassSet)

def ClassSet.span : ClassSet → Span
  | .empty span => span
  | .literal l => l.span
  | .range span _ _ => span
  | .ascii span _ _ => span
  | .shorthand c => c.span
  | .property c => c.span
  | .bracketed span _ _ => span
  | .union span _ => span
  | .operation span _ _ _ => span

inductive Flag where
  | ignoreCase
  | multiLine
  | dotAll
  | swapGreed
  | unicode
  | crlf
  | verbose
deriving DecidableEq

abbrev FlagSetting := List (Flag × Bool)

inductive Assertion where
  | lineStart
  | lineEnd
  | textStart
  | textEnd
  | wordBoundary
  | notWordBoundary
  | wordStart
  | wordEnd
  | wordStartHalf
  | wordEndHalf

inductive Tree where
  | empty (span : Span)
  | flags (span : Span) (setting : FlagSetting)
  | literal (literal : Literal)
  | dot (span : Span)
  | assertion (span : Span) (assertion : Assertion)
  | shorthand (cls : ShorthandClass)
  | property (cls : PropertyClass)
  | bracketed (span : Span) (negated : Bool) (set : ClassSet)
  | repetition (span : Span) (least : Nat) (greatest : Option Nat) (greedy : Bool) (body : Tree)
  | group (span : Span) (index : Option Nat) (setting : FlagSetting) (body : Tree)
  | alternation (span : Span) (branches : List Tree)
  | concat (span : Span) (parts : List Tree)

def Tree.span : Tree → Span
  | .empty span => span
  | .flags span _ => span
  | .literal l => l.span
  | .dot span => span
  | .assertion span _ => span
  | .shorthand c => c.span
  | .property c => c.span
  | .bracketed span _ _ => span
  | .repetition span _ _ _ _ => span
  | .group span _ _ _ => span
  | .alternation span _ => span
  | .concat span _ => span

def ClassSet.tooDeep? (left : Nat) : ClassSet → Option Span
  | .bracketed span _ set =>
    match left with
    | 0 => some span
    | left + 1 => set.tooDeep? left
  | .union span items =>
    match left with
    | 0 => some span
    | left + 1 => tooDeepIn? left items
  | .operation span _ l r =>
    match left with
    | 0 => some span
    | left + 1 => (l.tooDeep? left).or (r.tooDeep? left)
  | _ => none
where
  tooDeepIn? (left : Nat) : List ClassSet → Option Span
    | [] => none
    | item :: rest => (item.tooDeep? left).or (tooDeepIn? left rest)

def Tree.tooDeep? (left : Nat) : Tree → Option Span
  | .bracketed span _ set =>
    match left with
    | 0 => some span
    | left + 1 => set.tooDeep? left
  | .repetition span _ _ _ body =>
    match left with
    | 0 => some span
    | left + 1 => body.tooDeep? left
  | .group span _ _ body =>
    match left with
    | 0 => some span
    | left + 1 => body.tooDeep? left
  | .alternation span branches =>
    match left with
    | 0 => some span
    | left + 1 => tooDeepIn? left branches
  | .concat span parts =>
    match left with
    | 0 => some span
    | left + 1 => tooDeepIn? left parts
  | _ => none
where
  tooDeepIn? (left : Nat) : List Tree → Option Span
    | [] => none
    | part :: rest => (part.tooDeep? left).or (tooDeepIn? left rest)

end JsonSchema.Pattern
