import Eligibility.Operator
import Eligibility.Path
import Eligibility.Value

namespace Eligibility

inductive Condition where
  | operand (value : Value)
  | compound (operator : Operator) (left right : Condition)
deriving DecidableEq

namespace Condition

def kindName : Condition → String
  | operand _ => "operand"
  | compound operator _ _ => operator.kind.name

def operator? : Condition → Option Operator
  | operand _ => none
  | compound operator _ _ => some operator

def isOperand : Condition → Bool
  | operand _ => true
  | compound .. => false

def size : Condition → Nat
  | operand _ => 1
  | compound _ left right => 1 + left.size + right.size

def depth : Condition → Nat
  | operand _ => 1
  | compound _ left right => 1 + max left.depth right.depth

-- A condition with its depth beside it, so that a larger one can be measured without a look inside.
structure Measured where
  condition : Condition
  depth : Nat
  exact : depth = condition.depth

def measured (condition : Condition) : Measured := ⟨condition,condition.depth,rfl⟩

def leaves : Condition → List Value
  | operand value => [value]
  | compound _ left right => left.leaves ++ right.leaves

def child? : Condition → Branch → Option Condition
  | operand _, _ => none
  | compound _ left _, .left => some left
  | compound _ _ right, .right => some right

def withChild? : Condition → Branch → Condition → Option Condition
  | operand _, _, _ => none
  | compound operator _ right, .left, child => some (compound operator child right)
  | compound operator left _, .right, child => some (compound operator left child)

def at? (condition : Condition) : Path → Option Condition
  | [] => some condition
  | step :: rest => (condition.child? step).bind (at? · rest)

def put? (condition : Condition) (part : Condition) : Path → Option Condition
  | [] => some part
  | step :: rest => do
    let child ← condition.child? step
    let changed ← child.put? part rest
    condition.withChild? step changed

-- No number that JSON cannot hold.
def isFinite : Condition → Bool
  | operand (.number n) => n.isFinite
  | operand _ => true
  | compound _ left right => left.isFinite && right.isFinite

def agreesValue : Value → Value → Bool
  | .number a, .number b => a.equal b
  | a, b => a = b

-- Equality up to numeric equality of the numbers.
def agrees : Condition → Condition → Bool
  | operand a, operand b => agreesValue a b
  | compound operator left right, compound operator' left' right' =>
    operator = operator' && left.agrees left' && right.agrees right'
  | _, _ => false

-- Trees deeper than this are refused, and so are parentheses nested deeper.
def maxDepth : Nat := 100

end Condition

end Eligibility
