import Eligibility.Double.Rounding
import Eligibility.Text

namespace Eligibility

-- Stands for digits * 10^exponent.
structure Decimal where
  digits : Nat
  exponent : Int
deriving DecidableEq

namespace Decimal

-- Numbers too large or too small are settled before any power is taken, so a long exponent costs nothing.
def toDouble (negative : Bool) (d : Decimal) : Double :=
  if d.digits = 0 then .finite negative .zero
  else match d.exponent with
    | .ofNat up =>
      if 308 < up then .infinite negative
      else Double.ofRatio negative (d.digits * tenTo up * Double.one) 1
    | .negSucc down =>
      if d.digits.log2 + Double.fractionBits + 2 ≤ 3 * (down + 1) then .finite negative .zero
      else Double.ofRatio negative (d.digits * Double.one) (tenTo (down + 1))

end Decimal

structure Numeral where
  negative : Bool
  size : Decimal
deriving DecidableEq

namespace Numeral

def toDouble (n : Numeral) : Double := n.size.toDouble n.negative

def takeSign : List Char → Bool × List Char
  | '+' :: rest => (false,rest)
  | '-' :: rest => (true,rest)
  | text => (false,text)

def power? (text : List Char) : Option Int :=
  let (negative,digits) := takeSign text
  if digits.isEmpty || !digits.all Char.isDigit then none
  else
    let size : Int := Nat.ofDigitChars 10 digits 0
    some (if negative then -size else size)

def scale? : List Char → Option Int
  | [] => some 0
  | mark :: rest => if mark == 'e' || mark == 'E' then power? rest else none

def unsigned? (text : List Char) : Option Decimal :=
  let whole := text.takeWhile Char.isDigit
  let (fraction,rest) := match text.dropWhile Char.isDigit with
    | '.' :: more => (more.takeWhile Char.isDigit,more.dropWhile Char.isDigit)
    | more => ([],more)
  if whole.isEmpty && fraction.isEmpty then none
  else (scale? rest).map fun power =>
    ⟨Nat.ofDigitChars 10 (whole ++ fraction) 0,power - fraction.length⟩

def read? (text : List Char) : Option Numeral :=
  let (negative,rest) := takeSign text
  (unsigned? rest).map (⟨negative,·⟩)

end Numeral

inductive Radix where
  | hexadecimal
  | octal
  | binary
deriving DecidableEq

namespace Radix

def base : Radix → Nat
  | hexadecimal => 16
  | octal => 8
  | binary => 2

def ofMark? (mark : Char) : Option Radix :=
  if mark = 'x' ∨ mark = 'X' then some hexadecimal
  else if mark = 'o' ∨ mark = 'O' then some octal
  else if mark = 'b' ∨ mark = 'B' then some binary
  else none

def digit? (radix : Radix) (c : Char) : Option Nat :=
  (Text.digitValue? c).filter (· < radix.base)

-- One more digit behind a number, the product and the sum each being rounded.
def append (radix : Radix) (m : Double.Magnitude) (digit : Nat) : Option Double.Magnitude :=
  (Double.magnitude? (m.units * radix.base) 1).bind fun scaled =>
    Double.magnitude? (scaled.units + digit * Double.one) 1

def toDouble (radix : Radix) (text : List Char) : Double :=
  match text.mapM radix.digit? with
  | none | some [] => .nan
  | some digits => Double.orInfinite false (digits.foldlM radix.append .zero)

end Radix

namespace Double

-- A text as a number. Blank is 0, what is no number is NaN.
def ofChars (text : List Char) : Double :=
  match Text.trim text with
  | [] => zero
  | '0' :: mark :: rest =>
    match Radix.ofMark? mark with
    | some radix => radix.toDouble rest
    | none => decimalOrNaN ('0' :: mark :: rest)
  | trimmed =>
    if trimmed = "Infinity".toList ∨ trimmed = "+Infinity".toList then .infinite false
    else if trimmed = "-Infinity".toList then .infinite true
    else decimalOrNaN trimmed
where
  decimalOrNaN (text : List Char) : Double :=
    match Numeral.read? text with
    | some numeral => numeral.toDouble
    | none => .nan

end Double

end Eligibility
