import JsonSchema.Text.Word

set_option autoImplicit false

namespace JsonSchema.Pattern

open Text (CharSet)

inductive Look where
  | textStart
  | textEnd
  | lineStart
  | lineEnd
  | crlfStart
  | crlfEnd
  | wordBoundary (ascii : Bool)
  | notWordBoundary (ascii : Bool)
  | wordStart (ascii : Bool)
  | wordEnd (ascii : Bool)
  | wordStartHalf (ascii : Bool)
  | wordEndHalf (ascii : Bool)
deriving DecidableEq

def asciiWordChars : CharSet := .ofRanges [(0x30, 0x39), (0x41, 0x5A), (0x5F, 0x5F), (0x61, 0x7A)]

def isWord (ascii : Bool) (neighbour : Option Char) : Bool :=
  neighbour.any fun c =>
    if ascii || c.toNat < 0x80 then asciiWordChars.contains c else Text.wordChars.contains c

def Look.holds (before after : Option Char) : Look → Bool
  | .textStart => before.isNone
  | .textEnd => after.isNone
  | .lineStart => before.all (· = '\n')
  | .lineEnd => after.all (· = '\n')
  | .crlfStart => before.all fun c => c = '\n' || (c = '\r' && after ≠ some '\n')
  | .crlfEnd => after.all fun c => c = '\r' || (c = '\n' && before ≠ some '\r')
  | .wordBoundary ascii => isWord ascii before != isWord ascii after
  | .notWordBoundary ascii => isWord ascii before == isWord ascii after
  | .wordStart ascii => !isWord ascii before && isWord ascii after
  | .wordEnd ascii => isWord ascii before && !isWord ascii after
  | .wordStartHalf ascii => !isWord ascii before
  | .wordEndHalf ascii => !isWord ascii after

end JsonSchema.Pattern
