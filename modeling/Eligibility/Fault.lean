import Eligibility.Condition
import Eligibility.Rule.Lexeme

namespace Eligibility

inductive RuleKind where
  | single
  | combined
deriving DecidableEq

structure RuleKey where
  kind : RuleKind
  name : String
deriving DecidableEq

def RuleKind.label : RuleKind → String
  | single => "rule"
  | combined => "combined rule"

def RuleKey.describe (key : RuleKey) : String := key.kind.label ++ " '" ++ key.name ++ "'"

inductive PathFault where
  | unknownSegment (segment : String)
  | absent (path : Path)
  | rootRemoval
deriving DecidableEq

inductive NodeFault where
  | operatorAt (path : Path)
  | operandAt (path : Path)
  | nodeAt (path : Path)
  | subExpressionAt (path : Path)
  | noExpression (key : RuleKey)
deriving DecidableEq

inductive NodePart where
  | operator
  | leftChild
  | rightChild
deriving DecidableEq

inductive WireFault where
  | notJson
  | lacks (kind : OperatorKind) (part : NodePart)
  | operandLacksValue
deriving DecidableEq

inductive Fault where
  | syntactic (cause : SyntaxFault)
  | unknownAttribute (name : String)
  | path (cause : PathFault)
  | node (cause : NodeFault)
  | notFinite (number : Double)
  | unknownOperator (kind : OperatorKind) (text : String)
  | unknownNode (kind : String)
  | wire (cause : WireFault)
  | tooDeep
  | ruleNotFound (key : RuleKey)
  | duplicateRule (name : String)
deriving DecidableEq

def PathFault.message : PathFault → String
  | unknownSegment segment => "unknown path segment '" ++ segment ++ "'"
  | absent path => "'" ++ path.display ++ "' does not exist in the tree"
  | rootRemoval => "the root expression cannot be removed"

def NodeFault.message : NodeFault → String
  | operatorAt path => "operator not found" ++ place path
  | operandAt path => "operand not found" ++ place path
  | nodeAt path => "node not found" ++ place path
  | subExpressionAt path => "sub-expression not found" ++ place path
  | noExpression key => key.describe ++ " has no expression"
where
  place (path : Path) : String := " at path '" ++ path.display ++ "'"

def NodePart.name : NodePart → String
  | operator => "operator"
  | leftChild => "left child"
  | rightChild => "right child"

def WireFault.message : WireFault → String
  | notJson => "the text does not hold the expected JSON"
  | lacks kind part => kind.name ++ " node without " ++ part.name
  | operandLacksValue => "operand node without value"

def Fault.message : Fault → String
  | syntactic cause => "Invalid rule string: " ++ cause.message
  | unknownAttribute name => "Invalid attribute: '" ++ name ++ "' is not in the catalog"
  | path cause => "Invalid path: " ++ cause.message
  | node cause => "Node not found: " ++ cause.message
  | notFinite n => "Invalid operand value: " ++ String.ofList n.plainChars ++ " is not a finite number"
  | unknownOperator kind text => "Unsupported operator: " ++ kind.name ++ " operator " ++ text
  | unknownNode kind => "Unsupported AST node type: " ++ kind
  | wire cause => "Deserialization error: " ++ cause.message
  | tooDeep => "Rule nests too deeply: more than " ++ Condition.maxDepth.repr ++ " levels"
  | ruleNotFound key => "Rule not found: " ++ key.describe
  | duplicateRule name => "Rule with this name already exists: " ++ name

def Connective.read (text : String) : Except Fault Connective :=
  let named := Operator.canonical .logical text
  match ofText? named with
  | some connective => .ok connective
  | none => .error (.unknownOperator .logical named)

def Comparator.read (text : String) : Except Fault Comparator :=
  let named := Operator.canonical .comparison text
  match ofText? named with
  | some comparator => .ok comparator
  | none => .error (.unknownOperator .comparison named)

def Operator.read (kind : OperatorKind) (text : String) : Except Fault Operator :=
  match kind with
  | .logical => (Connective.read text).map .logical
  | .comparison => (Comparator.read text).map .comparison

namespace Path

def readSegment (segment : List Char) : Except Fault Branch :=
  let text := String.ofList (Text.trim segment)
  match Branch.ofText? text with
  | some branch => .ok branch
  | none => .error (.path (.unknownSegment text))

def ofSegments (segments : List String) : Except Fault Path :=
  segments.mapM fun segment => readSegment segment.toList

def read (text : String) : Except Fault Path :=
  match Text.trim text.toList with
  | [] => .ok []
  | first :: rest => (segments (first :: rest)).mapM readSegment

end Path

namespace Condition

theorem Measured.join_depth (operator : Operator) (left right : Measured) :
    max left.depth right.depth + 1 = (compound operator left.condition right.condition).depth := by
  rw [Condition.depth,← left.exact,← right.exact,Nat.add_comm]

def Measured.join (operator : Operator) (left right : Measured) : Except Fault Measured :=
  let depth := max left.depth right.depth + 1
  if depth ≤ maxDepth then
    .ok ⟨compound operator left.condition right.condition,depth,join_depth operator left right⟩
  else .error .tooDeep

end Condition

-- Work on a state. A fault ends the work, and what has been written by then stays written.
abbrev Operation (σ α : Type) := ExceptT Fault (StateM σ) α

namespace Operation

variable {σ α β : Type}

def perform (operation : Operation σ α) (state : σ) : Except Fault α × σ := operation.run.run state

def look (question : σ → Except Fault α) : Operation σ α := do liftM (question (← get))

theorem perform_lift (answer : Except Fault α) (state : σ) :
    (liftM answer : Operation σ α).perform state = (answer,state) := rfl

theorem perform_look (question : σ → Except Fault α) (state : σ) :
    (look question).perform state = (question state,state) := rfl

theorem perform_bind (operation : Operation σ α) (next : α → Operation σ β) (state : σ) :
    (operation >>= next).perform state = match (operation.perform state).1 with
      | .ok result => (next result).perform (operation.perform state).2
      | .error fault => (.error fault,(operation.perform state).2) := by
  change (ExceptT.bindCont next (operation.perform state).1).run (operation.perform state).2 = _
  rcases operation.perform state with ⟨_ | _,_⟩ <;> rfl

theorem perform_map (change : α → β) (operation : Operation σ α) (state : σ) :
    (change <$> operation).perform state =
      ((operation.perform state).1.map change,(operation.perform state).2) := by
  rw [map_eq_pure_bind,perform_bind]
  rcases operation.perform state with ⟨_ | _,_⟩ <;> rfl

end Operation

end Eligibility
