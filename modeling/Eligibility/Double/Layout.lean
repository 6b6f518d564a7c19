import Eligibility.Double.Reading

namespace Eligibility.Decimal

open Double (Magnitude)

-- No trailing zero digits, for a digit string of at most 18 digits.
def stripped (d : Decimal) : Decimal :=
  let zeros := ((List.range 18).takeWhile fun n => d.digits % tenTo (n + 1) == 0).length
  ⟨d.digits / tenTo zeros,d.exponent + zeros⟩

-- The greatest k with 10^k ≤ n, for positive n of a few thousand bits.
def floorLog (n : Nat) : Nat :=
  let low := n.log2 * 30103 / 100000
  if tenTo (low + 1) ≤ n then low + 1 else low

-- Every positive magnitude is above 10^-324.
def leadingExponent (m : Magnitude) : Int := floorLog (m.units * tenTo 324 / Double.one) - 324

def inSteps (m : Magnitude) : (exponent : Int) → Nat × Nat
  | .ofNat up => (m.units,Double.one * tenTo up)
  | .negSucc down => (m.units * tenTo (down + 1),Double.one)

def ReadsBack (m : Magnitude) (d : Decimal) : Prop := d.toDouble false = .finite false m

instance (m : Magnitude) (d : Decimal) : Decidable (ReadsBack m d) :=
  inferInstanceAs (Decidable (_ = _))

inductive HalfWay where
  | up
  | toEven
deriving DecidableEq

def HalfWay.rises (rule : HalfWay) (lower : Nat) : Bool :=
  match rule with
  | .up => true
  | .toEven => lower % 2 == 1

def neighbours (rule : HalfWay) (m : Magnitude) (exponent : Int) : List Decimal :=
  let (num,den) := inSteps m exponent
  let lower := num / den
  let rest := num % den
  let below := stripped ⟨lower,exponent⟩
  let above := stripped ⟨lower + 1,exponent⟩
  let rises := if 2 * rest = den then rule.rises lower else decide (den < 2 * rest)
  if rises then [above,below] else [below,above]

def onGrid? (rule : HalfWay) (m : Magnitude) (exponent : Int) : Option Decimal :=
  (neighbours rule m exponent).find? fun d => ReadsBack m d

-- A unit is 5^1074 * 10^-1074.
def expansion (m : Magnitude) : Decimal :=
  ⟨m.units * Nat.pow 5 Double.fractionBits,-(Double.fractionBits : Int)⟩

-- Seventeen digits always suffice; the full expansion behind them makes whatever is returned read back.
def shortest (rule : HalfWay) (m : Magnitude) : Decimal :=
  let leading := leadingExponent m
  ((List.range 17).findSome? fun (more : Nat) => onGrid? rule m (leading - more)).getD (expansion m)

theorem onGrid_reads (rule : HalfWay) (m : Magnitude) (exponent : Int) (d : Decimal)
    (found : onGrid? rule m exponent = some d) : ReadsBack m d := by
  simpa using List.find?_some found

def digitChars (d : Decimal) : List Char := Nat.toDigits 10 d.digits

def positional (wholeMark : List Char) (d : Decimal) : List Char :=
  match d.exponent with
  | .ofNat up => d.digitChars ++ List.replicate up '0' ++ wholeMark
  | .negSucc down =>
    let places := down + 1
    let digits := d.digitChars
    if places < digits.length then
      let whole := digits.length - places
      digits.take whole ++ '.' :: digits.drop whole
    else '0' :: '.' :: (List.replicate (places - digits.length) '0' ++ digits)

def power (d : Decimal) : Int := d.exponent + d.digitChars.length - 1

def signedPower : Int → List Char
  | .ofNat up => '+' :: Nat.toDigits 10 up
  | .negSucc down => '-' :: Nat.toDigits 10 (down + 1)

def scientific (d : Decimal) : List Char :=
  let digits := d.digitChars
  let fraction := digits.drop 1
  digits.take 1 ++ (if fraction.isEmpty then [] else '.' :: fraction) ++ 'e' :: signedPower d.power

end Eligibility.Decimal

namespace Eligibility.Double

def signChars (negative : Bool) : List Char := if negative then ['-'] else []

def plainChars : Double → List Char
  | nan => "NaN".toList
  | infinite negative => signChars negative ++ "inf".toList
  | finite negative m =>
    if m.units = 0 then ['0'] else signChars negative ++ (Decimal.shortest .up m).positional []

end Eligibility.Double
