import JsonSchema.Pattern.Regex
import JsonSchema.Text.Utf8

set_option autoImplicit false

namespace JsonSchema.Pattern.Vocabulary

open Text (CharSet)

-- A word that texts begin with which match. An exact one matches by itself, and only then are its
-- characters known.
structure Word where
  text : List Char
  bytes : List Nat
  exact : Bool

namespace Word

def ofText (text : List Char) : Word := ⟨text, text.flatMap fun c => Text.Utf8.bytes c.toNat, true⟩

def inexact (w : Word) : Word := { w with exact := false }

def cut (length : Nat) (w : Word) : Word :=
  if w.bytes.length ≤ length then w else { w with bytes := w.bytes.take length, exact := false }

def append (w more : Word) : Word := ⟨w.text ++ more.text, w.bytes ++ more.bytes, more.exact⟩

end Word

-- The words in the order in which a match prefers them; none where they are too many or unknown.
abbrev Words := Option (List Word)

def merge (words : List Word) : List Word :=
  words.foldr (fun w merged =>
    match merged with
    | v :: rest =>
      if w.bytes = v.bytes then { w with exact := w.exact && v.exact } :: rest else w :: merged
    | [] => [w]) []

def ofSet (set : CharSet) : Words :=
  let size := set.ranges.foldl (fun n (lo, hi) => n + (hi + 1 - lo)) 0
  if 10 < size then none
  else
    some (set.ranges.toList.flatMap fun (lo, hi) =>
      (List.range' lo (hi + 1 - lo)).map fun code => .ofText [Char.ofNat code])

-- Where there would be too many words, four bytes of each are enough to look for.
def either (words others : List Word) : Words :=
  let join (words others : List Word) : Words :=
    if 250 < words.length + others.length then none
    else some ((merge (words ++ others)).map (.cut 100))
  (join words others).or
    (join (merge (words.map (.cut 4))) (merge (others.map (.cut 4))))

def followedBy (words : List Word) (next : Words) : Words :=
  match next.filter fun next => words.length * next.length ≤ 250 with
  | some next =>
    let longer := words.flatMap fun w => if w.exact then next.map w.append else [w]
    some ((merge longer).map (.cut 100))
  | none => if words.any (·.bytes.isEmpty) then none else some (words.map .inexact)

def copies (body : Words) : Nat → List Word → Words
  | 0, words => some words
  | n + 1, words =>
    if words.all (!·.exact) then some words
    else do copies body n (← followedBy words body)

def repeated (least : Nat) (greatest : Option Nat) (greedy : Bool) (body : Words) : Words := do
  let blank := [.ofText []]
  if least = 0 then
    let body ← body
    let body := if greatest = some 1 then body else body.map .inexact
    if greedy then either body blank else either blank body
  else
    let words ← copies body (min least 10) blank
    return if greatest = some least && least ≤ 10 then words else words.map .inexact

mutual

def ofRegex : Regex → Words
  | .empty => some [.ofText []]
  | .literal row => some [(Word.ofText row).cut 100]
  | .oneOf set => ofSet set
  | .look _ => some [.ofText []]
  | .repeated least greatest greedy body => repeated least greatest greedy (ofRegex body)
  | .capture _ body => ofRegex body
  | .concat parts => ofParts [.ofText []] parts
  | .union branches => ofBranches [] branches

def ofParts (words : List Word) : List Regex → Words
  | [] => some words
  | part :: rest =>
    if words.all (!·.exact) then some words
    else do ofParts (← followedBy words (ofRegex part)) rest

def ofBranches (words : List Word) : List Regex → Words
  | [] => some words
  | branch :: rest => do ofBranches (← either words (← ofRegex branch)) rest

end

-- How often a byte occurs in texts, as a rank among all bytes; those not listed are the most
-- frequent.
def ranks : Array Nat := #[
  55, 52, 51, 50, 49, 48, 47, 46, 45, 103, 242, 66, 67, 229, 44, 43,
  42, 41, 40, 39, 38, 37, 36, 35, 34, 33, 56, 32, 31, 30, 29, 28,
  255, 148, 164, 149, 136, 160, 155, 173, 221, 222, 134, 122, 232, 202, 215, 224,
  208, 220, 204, 187, 183, 179, 177, 168, 178, 200, 226, 195, 154, 184, 174, 126,
  120, 191, 157, 194, 170, 189, 162, 161, 150, 193, 142, 137, 171, 176, 185, 167,
  186, 112, 175, 192, 188, 156, 140, 143, 123, 133, 128, 147, 138, 146, 114, 223,
  151, 249, 216, 238, 236, 253, 227, 218, 230, 247, 135, 180, 241, 233, 246, 244,
  231, 139, 245, 243, 251, 235, 201, 196, 240, 214, 152, 182, 205, 181, 127, 27,
  212, 211, 210, 213, 228, 197, 169, 159, 131, 172, 105, 80, 98, 96, 97, 81,
  207, 145, 116, 115, 144, 130, 153, 121, 107, 132, 109, 110, 124, 111, 82, 108,
  118, 141, 113, 129, 119, 125, 165, 117, 92, 106, 83, 72, 99, 93, 65, 79,
  166, 237, 163, 199, 190, 225, 209, 203, 198, 217, 219, 206, 234, 248, 158, 239]

def rank (byte : Nat) : Nat := ranks.getD byte 255

def minimize (words : List Word) : List Word :=
  words.foldl (fun kept w =>
    if kept.any (·.bytes.isPrefixOf w.bytes) then kept else kept ++ [w]) []

def commonFront : List Nat → List Nat → List Nat
  | a :: as, b :: bs => if a = b then a :: commonFront as bs else []
  | _, _ => []

def stem : List Word → List Nat
  | [] => []
  | w :: rest => rest.foldl (fun front v => commonFront front v.bytes) w.bytes

def shorten (words : List Word) : List (Nat × Nat) → List Word
  | [] => words
  | (length, limit) :: rest =>
    if words.length ≤ limit then words
    else shorten (minimize (words.map (.cut length))) rest

def Word.isPoison (w : Word) : Bool :=
  match w.bytes with
  | [] => true
  | [byte] => 250 ≤ rank byte
  | _ => false

-- Fewer and shorter words, as far as they are quicker to look for. Exact words are given up for
-- shorter ones that are not, but not for poor ones.
def settle (words : List Word) : Words :=
  let least := minimize words
  let front := stem least
  let isRare := (front.head?.any fun byte => rank byte < 200) && front.length ≤ 3
  let isFast := least.all (·.exact) && least.length ≤ 16
  let kept :=
    if 4 < front.length || 1 < front.length && !isFast then merge (least.map (.cut front.length))
    else least
  let few := shorten kept [(5, 10), (4, 10), (3, 64), (2, 64), (1, 10)]
  let isPoor := few.isEmpty || few.any (·.bytes.length ≤ 2) || 64 < few.length
  if words.any (·.bytes.isEmpty) then none
  else if 1 < words.length && isRare then some (merge (least.map (.cut 1)))
  else if kept.all (·.exact) then
    some (if few.any Word.isPoison || isPoor then kept else few)
  else if few.any Word.isPoison then none
  else some few

mutual

def isPlain : Regex → Bool
  | .empty => true
  | .literal _ => true
  | .oneOf _ => true
  | .look _ => false
  | .repeated _ _ _ body => isPlain body
  | .capture _ _ => false
  | .concat parts => arePlain parts
  | .union branches => arePlain branches

def arePlain : List Regex → Bool
  | [] => true
  | r :: rest => isPlain r && arePlain rest

end

def isWord : Regex → Bool
  | .literal _ => true
  | _ => false

def isLongList : Regex → Bool
  | .union branches => 3000 ≤ branches.length && branches.all isWord
  | _ => false

-- The same expression as a list of words that are looked for without an automaton, so that no limit
-- holds: a long list as it stands, or the few words that an expression settles on if they are
-- exact.
def list? (r : Regex) : Option Regex :=
  if isLongList r then some r
  else if isPlain r then do
    let words ← settle (merge (← ofRegex r))
    if words.isEmpty || words.any (!·.exact) then none
    else some (.ofBranches (words.map fun w => .literal w.text))
  else none

end JsonSchema.Pattern.Vocabulary
