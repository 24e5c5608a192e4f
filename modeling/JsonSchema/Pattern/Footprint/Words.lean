import JsonSchema.Pattern.Footprint.Chars

set_option autoImplicit false

namespace JsonSchema.Pattern.Footprint

-- What is left of some words behind a place of the tree, in the order of the words.
abbrev Endings := List (List Nat)

def addEnding (groups : List Endings) (ending : List Nat) : List Endings :=
  -- An empty ending begins a new group, unless one has ended before any word goes on.
  match ending, groups with
  | [], group :: earlier =>
    if !earlier.isEmpty && groups.all List.isEmpty then groups else [] :: group :: earlier
  | _, group :: earlier => (ending :: group) :: earlier
  | _, [] => [[ending]]

def branches (group : Endings) : List Endings :=
  ((group.reverse.mergeSort fun a b => a.headD 0 ≤ b.headD 0).splitBy
    fun a b => a.headD 0 = b.headD 0).map fun branch => branch.map List.tail

def addPlace (endings : Endings) (f : Footprint) : List Endings × Footprint :=
  let groups := endings.foldl addEnding [[]]
  let choices := (groups.map branches).filter fun choice => !choice.isEmpty
  let f := choices.foldl
    (fun f choice => if choice.length = 1 then f.addState else f.addChoice choice.length) f
  let next := choices.flatten.filter fun branch => branch.any fun ending => !ending.isEmpty
  (next, f.addFork (choices.length + (groups.length - 1)))

def addPlaces : Nat → List Endings → Footprint → Footprint
  | 0, _, f => f
  | depth + 1, places, f =>
    let (next, f) := places.foldl
      (fun (next, f) endings =>
        let (more, f) := addPlace endings f
        (more ++ next, f))
      ([], f)
    addPlaces depth next f

def addWords (order : Order) (words : List (List Char)) (f : Footprint) : Footprint :=
  let rows := words.map fun word =>
    let row := word.flatMap fun c => Text.Utf8.bytes c.toNat
    if order = .forward then row else row.reverse
  addPlaces (rows.foldl (fun depth row => max depth row.length) 0) [rows] f.addState

end JsonSchema.Pattern.Footprint
