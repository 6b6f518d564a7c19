import Eligibility.Fault
import Eligibility.Json.Reader
import Eligibility.Json
import Eligibility.Json.Writer

namespace Eligibility

-- An absent tree stands for a child that is not there.
inductive Wire where
  | absent
  | node (type : String) (operator : Option String) (left right : Wire) (value : Option Value)
deriving DecidableEq

namespace Value

def toJson : Value → Json
  | boolean truth => .boolean truth
  | number n => .number n
  | string text => .string text

-- A number that no double can hold is no value.
def ofJson? : Json → Option Value
  | .boolean truth => some (boolean truth)
  | .number n => if n.isFinite then some (number n) else none
  | .string text => some (string text)
  | _ => none

def ofSlot? (slot : Option Json) : Option (Option Value) :=
  match Json.given slot with
  | none => some none
  | some json => (ofJson? json).map some

end Value

namespace Wire

def isAbsent : Wire → Bool
  | absent => true
  | node .. => false

def levels : Wire → Nat
  | absent => 0
  | node _ _ left right _ => 1 + max left.levels right.levels

def slotNames : List String := ["type","operator","left","right","value"]

-- A node with its children read; only the type has to be there.
def ofSlots? (type operator : Option Json) (left right : Option Wire) (value : Option Json) :
    Option Wire :=
  match type with
  | some (.string type) =>
    (Json.optionalText? operator).bind fun operator => left.bind fun left => right.bind fun right =>
      (Value.ofSlot? value).map fun value => node type operator left right value
  | _ => none

theorem child_smaller (json child : Json) (slots : List (Option Json)) (slot : Option Json)
    (found : json.slots? slotNames 1 = some slots) (member : slot ∈ slots)
    (there : Json.given slot = some child) : sizeOf child < sizeOf json := by
  rw [Json.given_some _ _ there] at member
  exact Json.slots_smaller _ _ _ _ _ found member

def ofJson? (json : Json) : Option Wire :=
  match found : json.slots? slotNames 1 with
  | some [type,operator,left,right,value] =>
    let left := match there : Json.given left with
      | none => some absent
      | some child =>
        have := child_smaller _ _ _ left found (by simp) there
        ofJson? child
    let right := match there : Json.given right with
      | none => some absent
      | some child =>
        have := child_smaller _ _ _ right found (by simp) there
        ofJson? child
    ofSlots? type operator left right value
  | _ => none
termination_by sizeOf json

-- What is read of a text may nest this deep. What stands under unknown names is passed over, and
-- may nest deeper.
def textLevels : Nat := 127

def inText? (enclosing : Nat) (json : Json) : Option Wire :=
  (ofJson? json).filter fun wire => enclosing + wire.levels ≤ textLevels

def kindOf? (type : String) : Option OperatorKind :=
  if type = OperatorKind.logical.name then some .logical
  else if type = OperatorKind.comparison.name then some .comparison
  else none

-- Of several faults the one met first counts: a node comes before its left side, and that before its right.
def toCondition (level : Nat) : Wire → Except Fault Condition
  | absent => .error (.wire .notJson)
  | node type operator left right value =>
    if Condition.maxDepth < level then .error .tooDeep
    else
      match kindOf? type with
      | some kind =>
        match operator with
        | none => .error (.wire (.lacks kind .operator))
        | some text =>
          match Operator.read kind text with
          | .error fault => .error fault
          | .ok operator =>
            if left.isAbsent then .error (.wire (.lacks kind .leftChild))
            else if right.isAbsent then .error (.wire (.lacks kind .rightChild))
            else
              match left.toCondition (level + 1) with
              | .error fault => .error fault
              | .ok left =>
                match right.toCondition (level + 1) with
                | .error fault => .error fault
                | .ok right => .ok (.compound operator left right)
      | none =>
        if type = "operand" then
          match value with
          | some value => .ok (.operand value)
          | none => .error (.wire .operandLacksValue)
        else .error (.unknownNode type)

end Wire

namespace Condition

def toJson : Condition → Json
  | operand value => .object [("type",.string "operand"),("value",value.toJson)]
  | compound operator left right =>
    .object [("type",.string operator.kind.name),("operator",.string operator.text),
      ("left",left.toJson),("right",right.toJson)]

def ofWire : Option Wire → Except Fault Condition
  | none => .error (.wire .notJson)
  | some wire => wire.toCondition 1

-- A document whose objects are tables has no name twice.
def ofTabled (json : Json) : Except Fault Condition := ofWire (Wire.ofJson? json.tabled)

def ofText (text : String) : Except Fault Condition :=
  ofWire ((Json.read? text).bind (Wire.inText? 0))

end Condition

end Eligibility
