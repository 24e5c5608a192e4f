import JsonSchema.Text.CharSet

set_option autoImplicit false

namespace JsonSchema.Text.Utf8

structure ByteRange where
  lo : Nat
  hi : Nat
deriving DecidableEq

def bytes (code : Nat) : List Nat :=
  let last (shift : Nat) : Nat := 0x80 + (code >>> shift) % 0x40
  if code < 0x80 then [code]
  else if code < 0x800 then [0xC0 + (code >>> 6), last 0]
  else if code < 0x10000 then [0xE0 + (code >>> 12), last 6, last 0]
  else [0xF0 + (code >>> 18), last 12, last 6, last 0]

def lengthSplit? (lo hi : Nat) : Option Nat :=
  [0x80, 0x800, 0x10000].find? fun first => lo < first && first ≤ hi

-- Where a range that does not fill its blocks is divided, so that the last bytes of one part, or of
-- the other, run through all values.
def blockSplit? (lo hi : Nat) : Option Nat :=
  [0x40, 0x1000, 0x40000].findSome? fun block =>
    if lo / block = hi / block then none
    else if lo % block ≠ 0 then some ((lo / block + 1) * block)
    else if hi % block ≠ block - 1 then some (hi / block * block)
    else none

def split? (lo hi : Nat) : Option Nat :=
  (lengthSplit? lo hi).or (if hi < 0x80 then none else blockSplit? lo hi)

def rows (lo hi : Nat) : List (List ByteRange) :=
  match split? lo hi with
  | none => [List.zipWith .mk (bytes lo) (bytes hi)]
  | some middle =>
    if _ : lo < middle ∧ middle ≤ hi then rows lo (middle - 1) ++ rows middle hi
    else [List.zipWith .mk (bytes lo) (bytes hi)]
termination_by hi - lo

def rowsOf (set : CharSet) : List (List ByteRange) :=
  -- The code points from U+D800 to U+DFFF are no characters.
  set.ranges.toList.flatMap fun (lo, hi) =>
    (if lo ≤ 0xD7FF then rows lo (min hi 0xD7FF) else [])
      ++ (if 0xE000 ≤ hi then rows (max lo 0xE000) hi else [])

end JsonSchema.Text.Utf8
