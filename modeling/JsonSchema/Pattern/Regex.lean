import JsonSchema.Pattern.Look

set_option autoImplicit false

namespace JsonSchema.Pattern

open Text (CharSet)

inductive Regex where
  | empty
  | literal (row : List Char)
  | oneOf (set : CharSet)
  | look (condition : Look)
  | repeated (least : Nat) (greatest : Option Nat) (greedy : Bool) (body : Regex)
  | capture (index : Nat) (body : Regex)
  | concat (parts : List Regex)
  | union (branches : List Regex)

namespace Regex

mutual

def same : Regex → Regex → Bool
  | .empty, .empty => true
  | .literal a, .literal b => a == b
  | .oneOf a, .oneOf b => a == b
  | .look a, .look b => a == b
  | .repeated least greatest greedy body, .repeated least' greatest' greedy' body' =>
    least == least' && greatest == greatest' && greedy == greedy' && same body body'
  | .capture index body, .capture index' body' => index == index' && same body body'
  | .concat parts, .concat parts' => sameAll parts parts'
  | .union branches, .union branches' => sameAll branches branches'
  | _, _ => false

def sameAll : List Regex → List Regex → Bool
  | [], [] => true
  | r :: rest, r' :: rest' => same r r' && sameAll rest rest'
  | _, _ => false

end

mutual

def minLength? : Regex → Option Nat
  | .empty => some 0
  | .literal row => some row.length
  | .oneOf set => if set.isEmpty then none else some 1
  | .look _ => some 0
  | .repeated least _ _ body => body.minLength?.map (· * least)
  | .capture _ body => body.minLength?
  | .concat parts => minLengthOfParts? parts
  | .union branches => minLengthOfBranches? branches

def minLengthOfParts? : List Regex → Option Nat
  | [] => some 0
  | part :: rest => do return (← part.minLength?) + (← minLengthOfParts? rest)

def minLengthOfBranches? : List Regex → Option Nat
  | [] => none
  | [branch] => branch.minLength?
  | branch :: rest => do return min (← branch.minLength?) (← minLengthOfBranches? rest)

end

mutual

def isBlank : Regex → Bool
  | .empty => true
  | .literal _ => false
  | .oneOf _ => false
  | .look _ => true
  | .repeated _ greatest _ body => greatest.isSome && body.isBlank
  | .capture _ body => body.isBlank
  | .concat parts => areBlank parts
  | .union branches => areBlank branches

def areBlank : List Regex → Bool
  | [] => true
  | r :: rest => r.isBlank && areBlank rest

end

def startsAtTextStart : Regex → Bool
  | .look condition => condition == .textStart
  | .repeated least _ _ body => 0 < least && body.startsAtTextStart
  | .capture _ body => body.startsAtTextStart
  | .concat parts => firstStarts parts
  | .union branches => allStart branches
  | _ => false
where
  firstStarts : List Regex → Bool
    | [] => false
    | part :: rest => part.startsAtTextStart || (part.isBlank && firstStarts rest)
  allStart : List Regex → Bool
    | [] => true
    | branch :: rest => branch.startsAtTextStart && allStart rest

def endsAtTextEnd : Regex → Bool
  | .look condition => condition == .textEnd
  | .repeated least _ _ body => 0 < least && body.endsAtTextEnd
  | .capture _ body => body.endsAtTextEnd
  | .concat parts => lastEnds parts
  | .union branches => allEnd branches
  | _ => false
where
  lastEnds : List Regex → Bool
    | [] => false
    | part :: rest => lastEnds rest || (areBlank rest && part.endsAtTextEnd)
  allEnd : List Regex → Bool
    | [] => true
    | branch :: rest => branch.endsAtTextEnd && allEnd rest

def ofSet (set : CharSet) : Regex :=
  match set.ranges.toList with
  | [(lo, hi)] => if lo = hi then .literal [Char.ofNat lo] else .oneOf set
  | _ => .oneOf set

def repetition (least : Nat) (greatest : Option Nat) (greedy : Bool) (body : Regex) : Regex :=
  -- One copy of a blank expression is as good as many.
  let least := if body.isBlank then min least 1 else least
  let greatest := if body.isBlank then some (min (greatest.getD 1) 1) else greatest
  match least, greatest with
  | 0, some 0 => .empty
  | 1, some 1 => body
  | _, _ => .repeated least greatest greedy body

def toParts : Regex → List Regex
  | .empty => []
  | .concat parts => parts
  | r => [r]

def consPart : Regex → List Regex → List Regex
  | .literal row, .literal row' :: rest => .literal (row ++ row') :: rest
  | part, rest => part :: rest

def ofParts (parts : List Regex) : Regex :=
  match (parts.flatMap toParts).foldr consPart [] with
  | [] => .empty
  | [part] => part
  | parts => .concat parts

def toBranches : Regex → List Regex
  | .union branches => branches
  | r => [r]

def singleChar? : Regex → Option Char
  | .literal [c] => some c
  | _ => none

def set? : Regex → Option CharSet
  | .oneOf set => some set
  | _ => none

-- Branches, of which no one is a union itself. Where each is one character, or each is a set, they
-- are a set.
def ofFlatBranches (branches : List Regex) (otherwise : List Regex → Regex) : Regex :=
  match branches with
  | [] => .oneOf .empty
  | [branch] => branch
  | _ =>
    match branches.mapM singleChar?, branches.mapM set? with
    | some row, _ => ofSet (.ofChars row)
    | none, some sets => ofSet (CharSet.unions sets)
    | none, none => otherwise branches

def commonLength : List Regex → List Regex → Nat
  | a :: rest, b :: rest' => if same a b then commonLength rest rest' + 1 else 0
  | _, _ => 0

def sharedLength : List Regex → Nat
  | .concat first :: rest =>
    rest.foldl
      (fun n branch =>
        match branch with
        | .concat parts => min n (commonLength first parts)
        | _ => 0)
      first.length
  | _ => 0

def liftShared (branches : List Regex) : Regex :=
  match sharedLength branches with
  | 0 => .union branches
  | n =>
    let rows := branches.map toParts
    let rests := rows.map fun row => ofParts (row.drop n)
    ofParts ((rows.headD []).take n ++ [ofFlatBranches (rests.flatMap toBranches) .union])

def ofBranches (branches : List Regex) : Regex :=
  ofFlatBranches (branches.flatMap toBranches) liftShared

end Regex

end JsonSchema.Pattern
