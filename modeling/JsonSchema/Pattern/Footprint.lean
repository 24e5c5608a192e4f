import JsonSchema.Pattern.Footprint.Words
import JsonSchema.Pattern.Regex

set_option autoImplicit false

/-!
The room that an expression takes. It counts as two automata, one that reads a text forward and notes
where groups begin and end, and one that reads it backward. A limit on both keeps small patterns from
standing for huge expressions.
-/

namespace JsonSchema.Pattern.Footprint

def word? : Regex → Option (List Char)
  | .literal row => some row
  | _ => none

mutual

def addRegex (order : Order) : Regex → Footprint → Footprint
  | .empty, f => f.addState
  | .literal row, f => f.addStates (row.foldl (fun n c => n + c.utf8Size) 0)
  | .oneOf set, f => f.addSet order set
  | .look _, f => f.addState
  | .repeated least greatest _ body, f =>
    -- Each copy has states of its own; only an endless row goes round in its last copy.
    match greatest with
    | none =>
      if least = 0 then
        -- A round that may be empty has a fork at its end too, by which the loop is left.
        if body.minLength?.any (0 < ·) then addRegex order body (f.addFork 2)
        else (((addRegex order body f).addFork 2).addFork 2).addState
      else (times (addRegex order body) least f).addFork 2
    | some greatest =>
      if least = 0 ∧ greatest = 1 then (addRegex order body (f.addFork 2)).addState
      else
        let f := if least = 0 then f.addState else times (addRegex order body) least f
        if least = greatest then f
        else times (fun f => addRegex order body (f.addFork 2)) (greatest - least) f.addState
  | .capture _ body, f =>
    match order with
    | .forward => (addRegex order body f.addState).addState
    | .backward => addRegex order body f
  | .concat parts, f =>
    match order with
    | .forward => addEach order parts f
    | .backward => addEachFromLast order parts f
  | .union branches, f =>
    match branches.mapM word? with
    | some words => f.addWords order words
    | none => addBranches order branches.length branches 0 f

def addEach (order : Order) : List Regex → Footprint → Footprint
  | [], f => f
  | r :: rest, f => addEach order rest (addRegex order r f)

def addEachFromLast (order : Order) : List Regex → Footprint → Footprint
  | [], f => f
  | r :: rest, f => addRegex order r (addEachFromLast order rest f)

def addBranches (order : Order) (ways : Nat) : List Regex → Nat → Footprint → Footprint
  | [], _, f => f
  | r :: rest, place, f =>
    let f := addRegex order r f
    -- The states where the branches part and meet come behind the second one.
    addBranches order ways rest (place + 1) (if place = 1 then (f.addFork ways).addState else f)

end

-- A match may begin at every place, and the automaton skips what stands before it; it skips nothing
-- where a match has to begin at the start of the text, or to end at its end when it reads backward.
def ofRegex (order : Order) (r : Regex) : Footprint :=
  match order with
  | .forward =>
    let start :=
      if r.startsAtTextStart then zero.addState else ((zero.addFork 2).addState).addChoice 1
    (addRegex order r start.addState).addState.addState
  | .backward =>
    let start := if r.endsAtTextEnd then zero.addState else ((zero.addFork 2).addState).addChoice 1
    (addRegex order r start).addState

end JsonSchema.Pattern.Footprint

namespace JsonSchema.Pattern

def Regex.fits (r : Regex) : Bool :=
  !(Footprint.ofRegex .forward r).isTooLarge && !(Footprint.ofRegex .backward r).isTooLarge

end JsonSchema.Pattern
