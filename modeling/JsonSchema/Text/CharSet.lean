set_option autoImplicit false

namespace JsonSchema.Text

structure CharSet where
  ranges : Array (Nat × Nat)
deriving DecidableEq

namespace CharSet

def maxCode : Nat := 0x10FFFF

def empty : CharSet := ⟨#[]⟩

def all : CharSet := ⟨#[(0, maxCode)]⟩

def isEmpty (s : CharSet) : Bool := s.ranges.isEmpty

-- Joins ranges that overlap or touch, beginning with the range from `lo` to `hi`; they come in the
-- order of their lower ends.
def joinFrom (lo hi : Nat) : List (Nat × Nat) → List (Nat × Nat)
  | [] => [(lo, hi)]
  | (lo', hi') :: rest =>
    if lo' ≤ hi + 1 then joinFrom lo (max hi hi') rest else (lo, hi) :: joinFrom lo' hi' rest

def join : List (Nat × Nat) → List (Nat × Nat)
  | [] => []
  | (lo, hi) :: rest => joinFrom lo hi rest

def ofRanges (ranges : List (Nat × Nat)) : CharSet :=
  ⟨(join (ranges.mergeSort fun a b => a.1 ≤ b.1)).toArray⟩

def ofChars (chars : List Char) : CharSet := ofRanges (chars.map fun c => (c.toNat, c.toNat))

def searchFrom (ranges : Array (Nat × Nat)) (code lo hi : Nat) : Bool :=
  if _ : lo < hi then
    let mid := (lo + hi) / 2
    match ranges[mid]? with
    | none => false
    | some (first, last) =>
      if code < first then searchFrom ranges code lo mid
      else if last < code then searchFrom ranges code (mid + 1) hi
      else true
  else false
termination_by hi - lo

def containsCode (s : CharSet) (code : Nat) : Bool := searchFrom s.ranges code 0 s.ranges.size

def contains (s : CharSet) (c : Char) : Bool := s.containsCode c.toNat

def union (a b : CharSet) : CharSet := ofRanges (a.ranges.toList ++ b.ranges.toList)

def unions (sets : List CharSet) : CharSet := ofRanges (sets.flatMap (·.ranges.toList))

-- The character before another one. The code points in front of U+E000 are no characters.
def before (code : Nat) : Nat := if code = 0xE000 then 0xD7FF else code - 1

def behind (code : Nat) : Nat := if code = 0xD7FF then 0xE000 else code + 1

def between (a b : Nat) : Nat × Nat := (min a b, max a b)

def gapsBehind (last : Nat) : List (Nat × Nat) → List (Nat × Nat)
  | [] => if last < maxCode then [between (behind last) maxCode] else []
  | (lo, hi) :: rest => between (behind last) (before lo) :: gapsBehind hi rest

def gaps : List (Nat × Nat) → List (Nat × Nat)
  | [] => [(0, maxCode)]
  | (lo, hi) :: rest => (if lo = 0 then [] else [(0, before lo)]) ++ gapsBehind hi rest

def complement (s : CharSet) : CharSet := ⟨(gaps s.ranges.toList).toArray⟩

def sharedParts : List (Nat × Nat) → List (Nat × Nat) → List (Nat × Nat)
  | (lo, hi) :: rest, (lo', hi') :: rest' =>
    let part := if max lo lo' ≤ min hi hi' then [(max lo lo', min hi hi')] else []
    if hi < hi' then part ++ sharedParts rest ((lo', hi') :: rest')
    else part ++ sharedParts ((lo, hi) :: rest) rest'
  | _, _ => []
termination_by a b => a.length + b.length

def inter (a b : CharSet) : CharSet := ⟨(sharedParts a.ranges.toList b.ranges.toList).toArray⟩

def partsOutside (lo hi : Nat) : List (Nat × Nat) → List (Nat × Nat)
  | [] => [(lo, hi)]
  | (lo', hi') :: rest =>
    if hi' < lo then partsOutside lo hi rest
    else if hi < lo' then [(lo, hi)]
    else
      let front := if lo < lo' then [(lo, before lo')] else []
      if hi' < hi then front ++ partsOutside (behind hi') hi rest else front

def diff (a b : CharSet) : CharSet :=
  ⟨(a.ranges.toList.flatMap fun (lo, hi) => partsOutside lo hi b.ranges.toList).toArray⟩

def symmDiff (a b : CharSet) : CharSet := (a.union b).diff (a.inter b)

def digitValue (c : Char) : Nat :=
  if 'a' ≤ c then c.toNat - 'a'.toNat + 10 else c.toNat - '0'.toNat

def decodeNumber (text : String) : Nat :=
  text.foldl (fun n c => n * 36 + digitValue c) 0

-- The ranges whose gaps and lengths alternate in a list; the first gap begins at `start`.
def ofDistances (start : Nat) : List Nat → List (Nat × Nat)
  | gap :: length :: rest =>
    (start + gap, start + gap + length) :: ofDistances (start + gap + length + 1) rest
  | _ => []

def decode (rows : List String) : CharSet :=
  ⟨(ofDistances 0 ((rows.flatMap (·.splitOn " ")).map decodeNumber)).toArray⟩

end CharSet

end JsonSchema.Text
