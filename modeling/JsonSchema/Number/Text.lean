import JsonSchema.Number.Decimal

set_option autoImplicit false

namespace JsonSchema

/-- The decisions of a number format. The point position of `0.d₁d₂… * 10 ^ k` is `k`. -/
structure NumberStyle where
  tie : Tie
  positional : Int → Bool
  fraction : Bool

namespace NumberStyle

-- Numbers in documents: positional from `0.00001` up to sixteen digits before the point, and never
-- without a fraction or an exponent, so that a reader tells them from integers.
def document : NumberStyle := ⟨.toEven, fun k => -5 < k && k ≤ 16, true⟩

-- Limits in messages: always positional, and a whole number has no fraction.
def limit : NumberStyle := ⟨.up, fun _ => true, false⟩

def zeros (n : Nat) : String := String.ofList (List.replicate n '0')

def writePositional (fraction : Bool) (digits : List Char) (point : Int) : String :=
  if point ≤ 0 then "0." ++ zeros (-point).toNat ++ String.ofList digits
  else if digits.length ≤ point.toNat then
    String.ofList digits ++ zeros (point.toNat - digits.length) ++ (if fraction then ".0" else "")
  else
    String.ofList (digits.take point.toNat) ++ "." ++ String.ofList (digits.drop point.toNat)

def writeScientific (digits : List Char) (point : Int) : String :=
  let tail := digits.drop 1
  let exponent := point - 1
  String.ofList (digits.take 1)
    ++ (if tail.isEmpty then "" else "." ++ String.ofList tail)
    ++ (if exponent < 0 then "e-" else "e+") ++ toString exponent.natAbs

def write (style : NumberStyle) (x : Binary64) : String :=
  let sign := if x.negative then "-" else ""
  if x.significand = 0 then sign ++ (if style.fraction then "0.0" else "0")
  else
    let decimal := x.shortest style.tie
    let digits := Nat.toDigits 10 decimal.digits
    let point := decimal.exponent + digits.length
    sign ++ if style.positional point then writePositional style.fraction digits point
      else writeScientific digits point

end NumberStyle

end JsonSchema
