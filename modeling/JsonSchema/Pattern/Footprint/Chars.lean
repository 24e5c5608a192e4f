import JsonSchema.Pattern.Footprint.Basic
import JsonSchema.Text.Utf8
import Std.Data.HashMap

set_option autoImplicit false

namespace JsonSchema.Pattern.Footprint

open Text (CharSet)
open Text.Utf8 (ByteRange)

structure Transition where
  range : ByteRange
  next : Nat
deriving DecidableEq

def Transition.toList (t : Transition) : List Nat := [t.range.lo, t.range.hi, t.next]

/-- The states of a set by what they do. The table has a number of slots; a state takes the slot
that its key gives, and the table forgets the state that was there. -/
structure Net where
  footprint : Footprint
  slots : Std.HashMap Nat (List Transition × Nat)

namespace Net

def ofFootprint (f : Footprint) : Net := ⟨f, ∅⟩

def mix (hash : UInt64) (n : Nat) : UInt64 := (hash ^^^ n.toUInt64) * 1099511628211

def slot (slots : Nat) (key : List Nat) : Nat :=
  (key.foldl mix 14695981039346656037).toNat % slots

def find (net : Net) (slot : Nat) (transitions : List Transition) (add : Footprint → Footprint) :
    Nat × Net :=
  match net.slots[slot]?.filter fun (known, _) => known = transitions with
  | some (_, state) => (state, net)
  | none =>
    let state := net.footprint.states
    (state, ⟨add net.footprint, net.slots.insert slot (transitions, state)⟩)

-- The state that reads one of some rows of bytes and then goes to `target`. The rows have at most
-- so many bytes, and those with the same first range stand together.
def addRows (target : Nat) : Nat → List (List ByteRange) → Net → Nat × Net
  | 0, _, net => (target, net)
  | length + 1, rows, net =>
    let (transitions, net) := (rows.splitBy fun a b => a.head? = b.head?).foldl
      (fun (transitions, net) group =>
        match group with
        | [range] :: _ => (⟨range, target⟩ :: transitions, net)
        | (range :: _) :: _ =>
          let (next, net) := addRows target length (group.map List.tail) net
          (⟨range, next⟩ :: transitions, net)
        | _ => (transitions, net))
      (([] : List Transition), net)
    let transitions := transitions.reverse
    net.find (slot 10000 (transitions.flatMap Transition.toList)) transitions
      (·.addChoice transitions.length)

def addReversed (target : Nat) (row : List ByteRange) (net : Net) : Net :=
  let (_, net) := row.foldl
    (fun (next, net) range =>
      net.find (slot 1000 [next, range.lo, range.hi]) [⟨range, next⟩] addState)
    (target, net)
  { net with footprint := net.footprint.addWays 1 }

end Net

inductive Order where
  | forward
  | backward
deriving DecidableEq

def addSet (order : Order) (set : CharSet) (f : Footprint) : Footprint :=
  -- A character of ASCII is one byte, so one choice reads it.
  if set.ranges.all fun (_, hi) => hi < 0x80 then f.addState.addChoice set.ranges.size
  else
    let rows := Text.Utf8.rowsOf set
    match order with
    | .forward => (Net.addRows f.states 4 rows (.ofFootprint f.addState)).2.footprint
    | .backward =>
      let net := Net.ofFootprint f.addState.addState
      (rows.foldl (fun net row => net.addReversed (f.states + 1) row) net).footprint

end JsonSchema.Pattern.Footprint
