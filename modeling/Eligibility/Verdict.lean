import Eligibility.Condition
import Eligibility.Value

namespace Eligibility

namespace Value

-- Values of one type are equal as such, all others as numbers.
def looseEqual : Value → Value → Bool
  | string left, string right => left == right
  | boolean left, boolean right => left == right
  | left, right => left.toNumber.equal right.toNumber

-- Two texts are ordered by code points, all else as numbers, where NaN has no place.
def order? : Value → Value → Option Ordering
  | string left, string right => some (compareOfLessAndEq left right)
  | left, right => left.toNumber.compare? right.toNumber

end Value

def Comparator.apply (comparator : Comparator) (left right : Value) : Bool :=
  match comparator with
  | equal => left.looseEqual right
  | greater => left.order? right == some .gt
  | less => left.order? right == some .lt
  | greaterEqual => left.order? right == some .gt || left.order? right == some .eq
  | lessEqual => left.order? right == some .lt || left.order? right == some .eq

-- An operand names a field by its text; without such a field it stands for itself.
inductive Resolved where
  | field (value : Value)
  | literal (value : Value)
deriving DecidableEq

namespace Resolved

def value : Resolved → Value
  | field value => value
  | literal value => value

end Resolved

def Record.resolve (record : Record) (value : Value) : Resolved :=
  match record.find? value.display with
  | some found => .field found
  | none => .literal value

namespace Condition

def sideValue (record : Record) (verdict : Bool) : Condition → Value
  | operand value => (record.resolve value).value
  | compound .. => .boolean verdict

def holds (record : Record) : Condition → Bool
  | operand value => (record.resolve value).value.isTruthy
  | compound (.logical connective) left right =>
    connective.apply (left.holds record) (right.holds record)
  | compound (.comparison comparator) left right =>
    comparator.apply (left.sideValue record (left.holds record))
      (right.sideValue record (right.holds record))

end Condition

-- A missing condition is never met.
def verdict (condition : Option Condition) (record : Record) : Bool :=
  match condition with
  | some condition => condition.holds record
  | none => false

end Eligibility
