import Eligibility.Double.Layout

namespace Eligibility

namespace Json

-- A tie between two shortest decimals goes to the even one.
def magnitudeChars (m : Double.Magnitude) : List Char :=
  let digits := Decimal.shortest .toEven m
  if -5 ≤ digits.power ∧ digits.power ≤ 15 then digits.positional ['.','0']
  else digits.scientific

def numberChars : Double → List Char
  | .finite negative m =>
    Double.signChars negative ++ (if m.units = 0 then "0.0".toList else magnitudeChars m)
  | _ => "null".toList

def significandLimit : Nat := twoTo 64

-- The digits of a whole part as far as they fit, and how many of them are left out.
def wholeSignificand (soFar : Nat) : List Char → Nat × Nat
  | [] => (soFar,0)
  | c :: rest =>
    let next := 10 * soFar + (c.toNat - '0'.toNat)
    if next < significandLimit then wholeSignificand next rest else (soFar,rest.length + 1)

def fractionSignificand (soFar : Nat) : List Char → Nat × Nat
  | [] => (soFar,0)
  | c :: rest =>
    let next := 10 * soFar + (c.toNat - '0'.toNat)
    if next < significandLimit then
      let (significand,taken) := fractionSignificand next rest
      (significand,taken + 1)
    else (soFar,0)

-- The greatest power of ten that a double can hold is 10^308.
def powerOfTen? (power : Nat) : Option Double.Magnitude :=
  Double.magnitude? (tenTo power * Double.one) 1

def lower? (m : Double.Magnitude) (power : Nat) : Option Double.Magnitude :=
  if power ≤ 308 then (powerOfTen? power).bind m.dividedBy
  else if m.units = 0 then some m
  else (powerOfTen? 308).bind fun ten => (m.dividedBy ten).bind fun lowered => lower? lowered (power - 308)
termination_by power

def scale? (m : Double.Magnitude) : (power : Int) → Option Double.Magnitude
  | .ofNat up =>
    if up ≤ 308 then (powerOfTen? up).bind m.times
    else if m.units = 0 then some m
    else none
  | .negSucc down => lower? m (down + 1)

def magnitudeOf? (whole fraction : List Char) (power : Int) : Option Double.Magnitude :=
  let (leading,dropped) := wholeSignificand 0 whole
  let (significand,taken) := fractionSignificand leading fraction
  (Double.magnitude? (significand * Double.one) 1).bind fun m => scale? m (power + dropped - taken)

end Json

end Eligibility
