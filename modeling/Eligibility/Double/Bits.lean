import Eligibility.Double.Rounding

namespace Eligibility.Double

def fractionSpan : Nat := twoTo 52

def exponentSpan : Nat := twoTo 11

-- Exponent field 0 counts units; from 1 on the fraction gains a leading bit and moves left.
def fieldUnits (exponent fraction : Nat) : Nat :=
  match exponent with
  | 0 => fraction
  | shift + 1 => (fractionSpan + fraction) * twoTo shift

-- Exponent field 2047 holds infinity, and NaN with any other fraction.
def ofBits (bits : Nat) : Double :=
  let fraction := bits % fractionSpan
  let exponent := bits / fractionSpan % exponentSpan
  let negative := bits / fractionSpan / exponentSpan % 2 == 1
  if exponent + 1 = exponentSpan then
    if fraction = 0 then infinite negative else nan
  else ofRatio negative (fieldUnits exponent fraction) 1

def signBits (negative : Bool) : Nat := if negative then fractionSpan * exponentSpan else 0

-- None for NaN, which has many forms.
def bits? : Double → Option Nat
  | nan => none
  | infinite negative => some (signBits negative + (exponentSpan - 1) * fractionSpan)
  | finite negative m =>
    -- The leading bit of the count, if it is there, adds the first one to the exponent field.
    let shift := m.units.log2 - 52
    some (signBits negative + (shift * fractionSpan + m.units / twoTo shift))

end Eligibility.Double
