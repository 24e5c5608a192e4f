import JsonSchema.Json.Basic
import JsonSchema.Text.Scan

set_option autoImplicit false

namespace JsonSchema.Json

inductive ReadError where
  | unexpectedEnd
  | unexpected (found : Char)
  | trailingText
  | badEscape
  | badNumber
  | tooDeep
deriving DecidableEq

namespace Reader

abbrev Read := Scan ReadError

def depthLimit : Nat := 128

def isBlank (c : Char) : Bool := c = ' ' || c = '\n' || c = '\r' || c = '\t'

def skipBlank : Read Unit := do
  let _ ← Scan.takeWhile isBlank

def take : Read Char := do
  match ← Scan.next? with
  | some c => return c
  | none => Scan.fail .unexpectedEnd

def expect (c : Char) : Read Unit := do
  let found ← take
  if found ≠ c then Scan.fail (.unexpected found)

def isDecimalDigit (c : Char) : Bool := '0' ≤ c && c ≤ '9'

def digitValue? (c : Char) : Option Nat :=
  if isDecimalDigit c then some (c.toNat - '0'.toNat)
  else if 'a' ≤ c && c ≤ 'f' then some (c.toNat - 'a'.toNat + 10)
  else if 'A' ≤ c && c ≤ 'F' then some (c.toNat - 'A'.toNat + 10)
  else none

def ofDigits (base : Nat) (digits : List Char) : Nat :=
  digits.foldl (fun n c => n * base + (digitValue? c).getD 0) 0

def unit16 : Read Nat := do
  let digits := [← take, ← take, ← take, ← take]
  if digits.all (fun c => (digitValue? c).isSome) then return ofDigits 16 digits
  else Scan.fail .badEscape

def isHighSurrogate (n : Nat) : Bool := 0xD800 ≤ n && n < 0xDC00

def isLowSurrogate (n : Nat) : Bool := 0xDC00 ≤ n && n < 0xE000

def escapedUnit : Read Char := do
  let high ← unit16
  if isHighSurrogate high then
    expect '\\'
    expect 'u'
    let low ← unit16
    if isLowSurrogate low then
      return Char.ofNat (0x10000 + (high - 0xD800) * 0x400 + (low - 0xDC00))
    else Scan.fail .badEscape
  else if isLowSurrogate high then Scan.fail .badEscape
  else return Char.ofNat high

def escaped : Read Char := do
  match ← take with
  | '"' => return '"'
  | '\\' => return '\\'
  | '/' => return '/'
  | 'b' => return '\x08'
  | 'f' => return '\x0c'
  | 'n' => return '\n'
  | 'r' => return '\r'
  | 't' => return '\t'
  | 'u' => escapedUnit
  | _ => Scan.fail .badEscape

def stringTail : Read String :=
  Scan.loop (fun _ => Scan.fail .unexpectedEnd)
    (fun (text : String) c => do
      if c = '"' then return .inr text
      else if c = '\\' then return .inl (text.push (← escaped))
      else if c.toNat < 0x20 then Scan.fail (.unexpected c)
      else return .inl (text.push c))
    ""

def digits : Read (List Char) := do
  let found ← Scan.takeWhile isDecimalDigit
  if found.isEmpty then Scan.fail .badNumber
  return found

def fraction? : Read (Option (List Char)) := do
  if ← Scan.skipIf '.' then return some (← digits)
  else return none

def exponent? : Read (Option Int) := do
  match ← Scan.peek? with
  | some 'e' | some 'E' =>
    Scan.skip
    if ← Scan.skipIf '-' then return some (-(ofDigits 10 (← digits)))
    let _ ← Scan.skipIf '+'
    return some (ofDigits 10 (← digits))
  | _ => return none

-- The number that a literal denotes. A zero with a sign is a float, since no integer has it.
def numberOf? (negative : Bool) (whole : List Char) (fraction : Option (List Char))
    (exponent : Option Int) : Option Number :=
  let float (digits : List Char) (power : Int) : Option Number :=
    (Binary64.ofDecimal? negative ⟨ofDigits 10 digits, power⟩).map .float
  match fraction, exponent with
  | none, none =>
    let value := ofDigits 10 whole
    if negative && value = 0 then some (.float (.zero true))
    else (Number.ofInt? (if negative then -value else value)).or (float whole 0)
  | fraction, exponent =>
    let behind := fraction.getD []
    float (whole ++ behind) (exponent.getD 0 - behind.length)

def number : Read Number := do
  let negative ← Scan.skipIf '-'
  let whole ← digits
  if whole.head? = some '0' && 1 < whole.length then Scan.fail .badNumber
  let fraction ← fraction?
  let exponent ← exponent?
  match numberOf? negative whole fraction exponent with
  | some n => return n
  | none => Scan.fail .badNumber

def word (text : String) (value : Json) : Read Json := do
  if ← Scan.skipWord text then return value
  else Scan.fail (.unexpected (← take))

def sequence {α : Type} (close : Char) (item : Read α) : Read (List α) := do
  skipBlank
  if ← Scan.skipIf close then return []
  let first ← item
  skipBlank
  Scan.loop (fun _ => Scan.fail .unexpectedEnd)
    (fun (found : List α) c => do
      if c = close then return .inr found.reverse
      else if c = ',' then
        let a ← item
        skipBlank
        return .inl (a :: found)
      else Scan.fail (.unexpected c))
    [first]

def member (nested : Read Json) : Read (String × Json) := do
  skipBlank
  expect '"'
  let key ← stringTail
  skipBlank
  expect ':'
  return (key, ← nested)

def valueOf (nested : Read Json) : Read Json := do
  skipBlank
  match ← Scan.peek? with
  | none => Scan.fail .unexpectedEnd
  | some 'n' => word "null" .null
  | some 't' => word "true" (.bool true)
  | some 'f' => word "false" (.bool false)
  | some '"' =>
    Scan.skip
    return .string (← stringTail)
  | some '[' =>
    Scan.skip
    return .array (← sequence ']' nested)
  | some '\x7b' =>
    Scan.skip
    return .ofMembers (← sequence '\x7d' (member nested))
  | some _ => return .number (← number)

def value : Nat → Read Json
  | 0 => Scan.fail .tooDeep
  | depth + 1 => valueOf (value depth)

def document : Read Json := do
  let v ← value depthLimit
  skipBlank
  match ← Scan.peek? with
  | none => return v
  | some _ => Scan.fail .trailingText

end Reader

def read (text : String) : Except ReadError Json := Reader.document.run text

end JsonSchema.Json
