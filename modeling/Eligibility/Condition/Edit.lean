import Eligibility.Fault

namespace Eligibility

namespace Condition

-- No conditions make no condition, whatever the operator; one condition is left as it is.
def combine (conditions : List Condition) (operator : String) : Except Fault (Option Condition) :=
  match conditions with
  | [] => .ok none
  | first :: rest =>
    match Connective.read operator with
    | .error fault => .error fault
    | .ok connective =>
      let join (whole : Measured) (next : Condition) := Measured.join (.logical connective) whole next.measured
      (rest.foldlM join first.measured).map fun whole => some whole.condition

def replace (condition : Condition) (path : Path) (part : Condition) : Except Fault Condition :=
  match condition.put? part path with
  | none => .error (.path (.absent path))
  | some changed => if path.length + part.depth ≤ maxDepth then .ok changed else .error .tooDeep

def operatorAt (condition : Condition) (path : Path) : Except Fault Operator :=
  match (condition.at? path).bind operator? with
  | some operator => .ok operator
  | none => .error (.node (.operatorAt path))

-- The new operator has to be one of the old one's kind.
def setOperator (condition : Condition) (path : Path) (text : String) : Except Fault Condition :=
  match condition.at? path with
  | some (compound old left right) =>
    match Operator.read old.kind text with
    | .error fault => .error fault
    | .ok operator => condition.replace path (compound operator left right)
  | _ => .error (.node (.operatorAt path))

-- NaN and the infinities are no operands, since JSON cannot hold them.
def setOperand (condition : Condition) (path : Path) (value : Value) : Except Fault Condition :=
  match unfit? value with
  | some n => .error (.notFinite n)
  | none =>
    match condition.at? path with
    | some (operand _) => condition.replace path (operand value)
    | _ => .error (.node (.operandAt path))
where
  unfit? : Value → Option Double
    | .number n => if n.isFinite then none else some n
    | _ => none

def addedConnective : Option String → Except Fault Connective
  | none => .ok .and
  | some text => Connective.read text

def add (condition : Condition) (path : Path) (expression : Condition) (operator : Option String) :
    Except Fault Condition :=
  match condition.at? path with
  | none => .error (.node (.nodeAt path))
  | some part =>
    match addedConnective operator with
    | .error fault => .error fault
    | .ok connective => condition.replace path (compound (.logical connective) part expression)

def remove (condition : Condition) (path : Path) : Except Fault Condition :=
  match Path.splitLast? path with
  | none => .error (.path .rootRemoval)
  | some (parent,last) =>
    match (condition.at? parent).bind (·.child? last.sibling) with
    | none => .error (.node (.subExpressionAt path))
    | some sibling => condition.replace parent sibling

end Condition

inductive Edit where
  | replace (path : Path) (part : Condition)
  | setOperator (path : Path) (text : String)
  | setOperand (path : Path) (value : Value)
  | add (path : Path) (expression : Condition) (operator : Option String)
  | remove (path : Path)
deriving DecidableEq

namespace Edit

def apply (condition : Condition) : Edit → Except Fault Condition
  | replace path part => condition.replace path part
  | setOperator path text => condition.setOperator path text
  | setOperand path value => condition.setOperand path value
  | add path expression operator => condition.add path expression operator
  | remove path => condition.remove path

end Edit

end Eligibility
